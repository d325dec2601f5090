import Pinhole.Proofs.Config.RoundTrip
import Pinhole.Proofs.Lookup

/-!
# Given settings over the defaults

A text may give any of the settings.  Its sections and keys come in any order,
others may stand among them, and a section of which nothing is given may be
empty or left out.  The text then holds the settings that it gives, with the
defaults for all others: those of a field that its section does not hold are
the same as those of a section that is not there.
-/

namespace Pinhole.Config

open Toml

/-- Some of the settings, each with a value of its type. -/
structure Given where
  listen : Option String := none
  remote : Option String := none
  transport : Option String := none
  tcpServer : Option String := none
  udpServer : Option String := none
  timeout : Option UInt64 := none
  retries : Option UInt32 := none
  provider : Option String := none
  id : Option String := none
  token : Option String := none
  domain : Option String := none
  subDomain : Option String := none
  service : Option String := none
  level : Option String := none

namespace Given

/-- The given settings, and those of a configuration for all others. -/
def overlay (given : Given) (config : Config) : Config where
  forward :=
    { listen := given.listen.or config.forward.listen
      remote := given.remote.or config.forward.remote
      transport := given.transport.getD config.forward.transport }
  stun :=
    { tcpServer := given.tcpServer.getD config.stun.tcpServer
      udpServer := given.udpServer.getD config.stun.udpServer
      timeout := given.timeout.getD config.stun.timeout
      retries := given.retries.getD config.stun.retries }
  dns :=
    { provider := given.provider.getD config.dns.provider
      id := given.id.or config.dns.id
      token := given.token.or config.dns.token
      domain := given.domain.getD config.dns.domain
      subDomain := given.subDomain.getD config.dns.subDomain
      service := given.service.getD config.dns.service }
  logging := { level := given.level.getD config.logging.level }

def text (value? : Option String) : Option Scalar :=
  value?.map .string

def number (value? : Option Nat) : Option Scalar :=
  value?.map .natural

def forwardFields (given : Given) : List (String × Option Scalar) :=
  [("local", text given.listen), ("remote", text given.remote),
    ("transport", text given.transport)]

def stunFields (given : Given) : List (String × Option Scalar) :=
  [("tcp_server", text given.tcpServer), ("udp_server", text given.udpServer),
    ("timeout_secs", number (given.timeout.map UInt64.toNat)),
    ("retries", number (given.retries.map UInt32.toNat))]

def dnsFields (given : Given) : List (String × Option Scalar) :=
  [("provider", text given.provider), ("id", text given.id),
    ("token", text given.token), ("domain", text given.domain),
    ("sub_domain", text given.subDomain), ("service", text given.service)]

def loggingFields (given : Given) : List (String × Option Scalar) :=
  [("level", text given.level)]

/-- The sections with their keys, and the values of those that are given. -/
def sections (given : Given) : List (String × List (String × Option Scalar)) :=
  [("forward", given.forwardFields), ("stun", given.stunFields),
    ("dns", given.dnsFields), ("logging", given.loggingFields)]

/-- A table has just the keys that are given, whatever others it has. -/
def Gives (table : List (String × Value))
    (fields : List (String × Option Scalar)) : Prop :=
  ∀ field ∈ fields, table.lookup field.1 = field.2.map Scalar.value

/-- A document gives just these settings: each section is a table that gives its
fields, or it is left out and none of its fields is given. -/
def StandsIn (given : Given) (entries : List (String × Value)) : Prop :=
  ∀ name fields, (name, fields) ∈ given.sections →
    (entries.lookup name = none ∧ ∀ field ∈ fields, field.2 = none) ∨
      ∃ table, entries.lookup name = some (.table table) ∧ Gives table fields

end Given

/-! ## Fields -/

namespace Written

variable {written : Written} {name : String} {place : Nat}

theorem string?_of_field? {given : Option String}
    (hfield : written.field? name place =
      (Given.text given).map Scalar.value)
    (absent : String) :
    written.string? name place absent = some (given.getD absent) := by
  rw [string?, hfield]
  cases given <;> rfl

theorem optionalString?_of_field? {given : Option String}
    (hfield : written.field? name place =
      (Given.text given).map Scalar.value) :
    written.optionalString? name place = some given := by
  rw [optionalString?, hfield]
  cases given <;> rfl

theorem natural?_of_field? {α : Type} {given : Option α} {toNat : α → Nat}
    (hfield : written.field? name place =
      (Given.number (given.map toNat)).map Scalar.value)
    {limit : Nat} (hle : ∀ value, toNat value ≤ limit) (absent : α) :
    written.natural? name place limit (toNat absent) =
      some (toNat (given.getD absent)) := by
  rw [natural?, hfield]
  cases given with
  | none => rfl
  | some value => simp [Given.number, Scalar.value, hle]

end Written

/-! ## Sections -/

/-- A section holds just the fields that are given. -/
def Written.Holds (written : Written)
    (fields : List (String × Option Scalar)) : Prop :=
  ∀ place, ∀ field ∈ fields,
    written.field? field.1 place = field.2.map Scalar.value

section Sections

variable {given : Given} {written : Written}

theorem forward?_of_holds (hholds : written.Holds given.forwardFields) :
    forward? written = some (given.overlay {}).forward := by
  simp only [Written.Holds, Given.forwardFields, List.forall_mem_cons] at hholds
  have hlisten := Written.optionalString?_of_field? (hholds 0).1
  have hremote := Written.optionalString?_of_field? (hholds 1).2.1
  have htransport := Written.string?_of_field? (hholds 2).2.2.1
  simp [forward?, hlisten, hremote, htransport, Given.overlay]

theorem stun?_of_holds (hholds : written.Holds given.stunFields) :
    stun? written = some (given.overlay {}).stun := by
  simp only [Written.Holds, Given.stunFields, List.forall_mem_cons] at hholds
  have htcpServer := Written.string?_of_field? (hholds 0).1
  have hudpServer := Written.string?_of_field? (hholds 1).2.1
  have htimeout := Written.natural?_of_field? (hholds 2).2.2.1
    fun timeout => Nat.le_sub_one_of_lt timeout.toNat_lt_size
  have hretries := Written.natural?_of_field? (hholds 3).2.2.2.1
    fun retries => Nat.le_sub_one_of_lt retries.toNat_lt_size
  simp only [stun?, htcpServer, hudpServer, htimeout, hretries, bind,
    Option.bind_some, UInt64.ofNat_toNat, UInt32.ofNat_toNat]
  rfl

theorem dns?_of_holds (hholds : written.Holds given.dnsFields) :
    dns? written = some (given.overlay {}).dns := by
  simp only [Written.Holds, Given.dnsFields, List.forall_mem_cons] at hholds
  have hprovider := Written.string?_of_field? (hholds 0).1
  have hid := Written.optionalString?_of_field? (hholds 1).2.1
  have htoken := Written.optionalString?_of_field? (hholds 2).2.2.1
  have hdomain := Written.string?_of_field? (hholds 3).2.2.2.1
  have hsubDomain := Written.string?_of_field? (hholds 4).2.2.2.2.1
  have hservice := Written.string?_of_field? (hholds 5).2.2.2.2.2.1
  simp [dns?, hprovider, hid, htoken, hdomain, hsubDomain, hservice,
    Given.overlay]

theorem logging?_of_holds (hholds : written.Holds given.loggingFields) :
    logging? written = some (given.overlay {}).logging := by
  simp only [Written.Holds, Given.loggingFields, List.forall_mem_cons] at hholds
  have hlevel := Written.string?_of_field? (hholds 0).1
  simp [logging?, hlevel, Given.overlay]

end Sections

/-! ## Documents -/

/-- A section is read as its default if it is left out and none of its fields is
given, so both kinds of defaults have to agree. -/
theorem Given.StandsIn.section?_eq {given : Given}
    {entries : List (String × Value)} (hstands : given.StandsIn entries)
    {name : String} {fields : List (String × Option Scalar)}
    (hmem : (name, fields) ∈ given.sections) {α : Type}
    {read : Written → Option α} {settings absent : α}
    (hread : ∀ written : Written, written.Holds fields →
      read written = some settings)
    (habsent : read (.named []) = some absent) :
    Config.section? entries name read absent = some settings := by
  rcases hstands name fields hmem with ⟨hnone, hfields⟩ | ⟨table, htable, hgives⟩
  · have hholds : (Written.named []).Holds fields := by
      intro place field hfield
      simp [Written.field?, hfields field hfield]
    rw [section?, hnone, ← habsent]
    exact hread _ hholds
  · rw [section?, htable]
    exact hread (.named table) fun _ => hgives

theorem mem_sections (given : Given) :
    ("forward", given.forwardFields) ∈ given.sections ∧
      ("stun", given.stunFields) ∈ given.sections ∧
      ("dns", given.dnsFields) ∈ given.sections ∧
      ("logging", given.loggingFields) ∈ given.sections := by
  simp [Given.sections]

theorem keysDiffer_sections (given : Given) : KeysDiffer given.sections := by
  have hnames : given.sections.map Prod.fst =
    ["forward", "stun", "dns", "logging"] := rfl
  rw [KeysDiffer, hnames]
  decide

theorem ofTable?_of_standsIn {given : Given} {entries : List (String × Value)}
    (hstands : given.StandsIn entries) :
    ofTable? entries = some (given.overlay {}) := by
  obtain ⟨hforward, hstun, hdns, hlogging⟩ := mem_sections given
  have hforwardRead : section? entries "forward" forward? {} = _ :=
    hstands.section?_eq hforward (fun _ => forward?_of_holds) rfl
  have hstunRead : section? entries "stun" stun? {} = _ :=
    hstands.section?_eq hstun (fun _ => stun?_of_holds) rfl
  have hdnsRead : section? entries "dns" dns? {} = _ :=
    hstands.section?_eq hdns (fun _ => dns?_of_holds) rfl
  have hloggingRead : section? entries "logging" logging? {} = _ :=
    hstands.section?_eq hlogging (fun _ => logging?_of_holds) rfl
  simp only [ofTable?, bind, Option.bind_some, hforwardRead, hstunRead,
    hdnsRead, hloggingRead]
  rfl

/-! ## Defaults that are written out -/

section Insert

variable {before after table : List (String × Value)} {name : String}

theorem readSection_insert {given : Given}
    {fields : List (String × Option Scalar)}
    (hmem : (name, fields) ∈ given.sections)
    (hgives : Given.Gives table fields)
    (hnone : (before ++ after).lookup name = none) {other : String}
    {others : List (String × Option Scalar)}
    (hother : (other, others) ∈ given.sections) {α : Type}
    {read : Written → Option α} {absent : α}
    (hread : ∀ written : Written, written.Holds others →
      read written = some absent) :
    Config.section? (before ++ (name, .table table) :: after) other read absent =
      Config.section? (before ++ after) other read absent := by
  by_cases hname : other = name
  · subst hname
    -- Its fields are those of the section that is read under this name.
    have hsame : fields = others := by
      rw [← lookup_eq_some_iff_mem (keysDiffer_sections given)] at hmem hother
      exact Option.some.inj (hmem.symm.trans hother)
    have hbefore := hnone
    rw [List.lookup_append, Option.or_eq_none_iff] at hbefore
    have hthere : (before ++ (other, .table table) :: after).lookup other =
        some (.table table) := by
      simp [List.lookup_append, hbefore.1]
    rw [section?, section?, hthere, hnone]
    exact hread (.named table) fun _ => hsame ▸ hgives
  · have hbeq : (other == name) = false := by simpa using hname
    simp [section?, List.lookup_append, List.lookup_cons, hbeq]

theorem ofTable?_insert {given : Given} (hdefault : given.overlay {} = {})
    {fields : List (String × Option Scalar)}
    (hmem : (name, fields) ∈ given.sections)
    (hgives : Given.Gives table fields)
    (hnone : (before ++ after).lookup name = none) :
    ofTable? (before ++ (name, .table table) :: after) =
      ofTable? (before ++ after) := by
  obtain ⟨hforward, hstun, hdns, hlogging⟩ := mem_sections given
  have hforwardRead := readSection_insert hmem hgives hnone hforward
    fun _ => forward?_of_holds
  have hstunRead := readSection_insert hmem hgives hnone hstun
    fun _ => stun?_of_holds
  have hdnsRead := readSection_insert hmem hgives hnone hdns
    fun _ => dns?_of_holds
  have hloggingRead := readSection_insert hmem hgives hnone hlogging
    fun _ => logging?_of_holds
  rw [hdefault] at hforwardRead hstunRead hdnsRead hloggingRead
  simp only [ofTable?, hforwardRead, hstunRead, hdnsRead, hloggingRead]

end Insert

/-! ## Given settings, printed -/

/-- The fields that are given. -/
def present (fields : List (String × Option Scalar)) : List (String × Scalar) :=
  fields.filterMap fun field => field.2.map (field.1, ·)

theorem mem_present {fields : List (String × Option Scalar)} {name : String}
    {scalar : Scalar} :
    (name, scalar) ∈ present fields ↔ (name, some scalar) ∈ fields := by
  simp only [present, List.mem_filterMap, Option.map_eq_some_iff,
    Prod.mk.injEq]
  constructor
  · rintro ⟨⟨_, _⟩, hmem, _, rfl, rfl, rfl⟩
    exact hmem
  · intro hmem
    exact ⟨_, hmem, scalar, rfl, rfl, rfl⟩

theorem keysDiffer_present {fields : List (String × Option Scalar)}
    (hdiffer : KeysDiffer fields) : KeysDiffer (present fields) := by
  rw [KeysDiffer, List.Nodup, List.pairwise_map] at hdiffer ⊢
  refine hdiffer.filterMap _ ?_
  intro field other hne
  simp only [Option.map_eq_some_iff]
  rintro _ ⟨_, _, rfl⟩ _ ⟨_, _, rfl⟩
  exact hne

theorem lookup_present {fields : List (String × Option Scalar)}
    (hdiffer : KeysDiffer fields) {field : String × Option Scalar}
    (hmem : field ∈ fields) : (present fields).lookup field.1 = field.2 := by
  have hfield := (lookup_eq_some_iff_mem hdiffer field.1 field.2).mpr hmem
  apply Option.ext
  intro scalar
  rw [lookup_eq_some_iff_mem (keysDiffer_present hdiffer), mem_present,
    ← lookup_eq_some_iff_mem hdiffer, hfield, Option.some_inj]

/-- All sections, each with the fields that are given. -/
def Given.page (given : Given) : Page :=
  printedPage (given.sections.map fun parts => (parts.1, present parts.2))

section Page

variable (given : Given)

theorem keysDiffer_parts : ∀ parts ∈ given.sections, KeysDiffer parts.2 := by
  simp [Given.sections, KeysDiffer, Given.forwardFields, Given.stunFields,
    Given.dnsFields, Given.loggingFields]

theorem standsIn_page : given.StandsIn given.page.sheet.entries := by
  intro name fields hmem
  have hsection :=
    (lookup_eq_some_iff_mem (keysDiffer_sections given) name fields).mpr hmem
  have htable := lookup_map_items (fun fields => Value.table
    ((present fields).map fun field => (field.1, field.2.value)))
    given.sections name
  rw [hsection, Option.map_some] at htable
  refine .inr ⟨(present fields).map fun field => (field.1, field.2.value), ?_, ?_⟩
  · rw [Given.page, entries_printedPage, List.map_map]
    exact htable
  · intro field hfield
    rw [lookup_map_items,
      lookup_present (keysDiffer_parts given _ hmem) hfield]

def IsReadableIfGiven (scalar? : Option Scalar) : Prop :=
  ∀ scalar ∈ scalar?, scalar.IsReadable

theorem isReadableIfGiven_text (value? : Option String) :
    IsReadableIfGiven (Given.text value?) := by
  simp [IsReadableIfGiven, Given.text, Scalar.IsReadable]

theorem isReadableIfGiven_number {α : Type} {value? : Option α}
    {toNat : α → Nat} (hlt : ∀ value ∈ value?, toNat value < integerLimit) :
    IsReadableIfGiven (Given.number (value?.map toNat)) := by
  simpa [IsReadableIfGiven, Given.number, Scalar.IsReadable] using hlt

theorem isReadable_page
    (htimeout : ∀ timeout ∈ given.timeout, timeout.toNat ≤ timeoutLimit) :
    given.page.IsReadable := by
  have htimeoutValue : IsReadableIfGiven
      (Given.number (given.timeout.map UInt64.toNat)) :=
    isReadableIfGiven_number fun timeout hgiven =>
      Nat.lt_of_le_sub_one (by decide) (htimeout timeout hgiven)
  have hretriesValue : IsReadableIfGiven
      (Given.number (given.retries.map UInt32.toNat)) :=
    isReadableIfGiven_number fun retries _ =>
      retries.toNat_lt_size.trans (by decide)
  have hfields : ∀ parts ∈ given.sections, ∀ field ∈ parts.2,
      IsReadableIfGiven field.2 := by
    simp only [Given.sections, Given.forwardFields, Given.stunFields,
      Given.dnsFields, Given.loggingFields, List.forall_mem_cons,
      isReadableIfGiven_text, htimeoutValue, hretriesValue]
    simp
  apply isReadable_printedPage
  rw [List.forall_mem_map]
  rintro parts hmem ⟨key, scalar⟩ hfield
  rw [mem_present] at hfield
  exact hfields parts hmem _ hfield scalar rfl

theorem keysDiffer_page : given.page.sheet.KeysDiffer := by
  apply keysDiffer_printedPage
  · exact (keysDiffer_sections given).map _ fun _ => rfl
  · rw [List.forall_mem_map]
    intro parts hmem
    exact keysDiffer_present (keysDiffer_parts given parts hmem)

end Page

/-! ## Texts -/

theorem parse?_of_standsIn {given : Given} {text : String}
    {entries : List (String × Value)}
    (hparse : Toml.parse? text = some entries)
    (hstands : given.StandsIn entries) :
    parse? text = some (given.overlay {}) := by
  rw [parse?, hparse]
  exact ofTable?_of_standsIn hstands

/-- A text that gives some of the settings, in any order and among any other keys
and tables, holds these settings over the defaults.  The second statement says
so of texts that are written down line by line, and there is such a text for any
choice of settings, except a timeout that is no 64-bit signed number.  A section
in which only defaults are given, be it all of them, some or none, is like one
that is left out, whatever the rest of the text holds. -/
theorem parse?_given (given : Given) :
    (∀ text entries, Toml.parse? text = some entries →
      given.StandsIn entries → parse? text = some (given.overlay {})) ∧
    (∀ page : Page, page.IsReadable → page.sheet.KeysDiffer →
      given.StandsIn page.sheet.entries →
        parse? (String.ofList page.text) = some (given.overlay {})) ∧
    ((∀ timeout ∈ given.timeout, timeout.toNat ≤ timeoutLimit) →
      ∃ page : Page, page.IsReadable ∧ page.sheet.KeysDiffer ∧
        given.StandsIn page.sheet.entries) ∧
    (given.overlay {} = {} →
      ∀ name fields, (name, fields) ∈ given.sections →
      ∀ table, Given.Gives table fields →
      ∀ before after, (before ++ after).lookup name = none →
      ∀ text without,
        Toml.parse? text = some (before ++ (name, .table table) :: after) →
        Toml.parse? without = some (before ++ after) →
          parse? text = parse? without) := by
  refine ⟨fun text entries => parse?_of_standsIn, ?_, ?_, ?_⟩
  · intro page hreadable hdiffer hstands
    exact parse?_of_standsIn (parse?_page hreadable hdiffer) hstands
  · intro htimeout
    exact ⟨given.page, isReadable_page given htimeout, keysDiffer_page given,
      standsIn_page given⟩
  · intro hdefault name fields hmem table hgives before after hnone
      text without htext hwithout
    rw [parse?, parse?, htext, hwithout]
    exact ofTable?_insert hdefault hmem hgives hnone

-- Sections in another order, with a key and a section that mean nothing.
example :
    parse? "# mine\n[dns]\ndomain = 'a.b'\n[else]\n[forward]\nx = 1\nlocal = ':80'\n" =
      some
        { forward := { listen := some ":80" }, dns := { domain := "a.b" } } := by
  cbv

end Pinhole.Config
