import Pinhole.Config.Reading
import Pinhole.Config.Writing
import Pinhole.Proofs.Toml.IntegerRange
import Pinhole.Proofs.Toml.RoundTrip

/-!
# The normal form holds the configuration

Fields are looked up by their names in the sections that were printed, so an
optional field that was left out is missed and an empty one is found.  A number
that was read from a document can be written to one.
-/

namespace Pinhole.Config

open Toml

/-! ## Reading what was written -/

namespace Written

/-- A section as it is read from its printed fields. -/
def ofFields (fields : List (String × Scalar)) : Written :=
  named (fields.map fun field => (field.1, field.2.value))

section Field

variable {fields : List (String × Scalar)} {name : String} {place : Nat}

theorem field?_ofFields :
    (ofFields fields).field? name place =
      (fields.lookup name).map Scalar.value :=
  lookup_map_items Scalar.value fields name

theorem natural?_ofFields {value limit : Nat} (absent : Nat)
    (hlookup : fields.lookup name = some (.natural value))
    (hle : value ≤ limit) :
    (ofFields fields).natural? name place limit absent = some value := by
  rw [natural?, field?_ofFields, hlookup]
  exact if_pos (by omega)

end Field

end Written

/-! ## Sections -/

theorem section?_tables {α : Type}
    {tables : List (String × List (String × Scalar))}
    {name : String} {fields : List (String × Scalar)}
    (hlookup : tables.lookup name = some fields)
    (read : Written → Option α) (absent : α) :
    Config.section? (tables.map tableValue) name read absent =
      read (.ofFields fields) := by
  have hvalue : (tables.map tableValue).lookup name =
      some (.table (fields.map fun field => (field.1, field.2.value))) := by
    have hmap := lookup_map_items (fun fields : List (String × Scalar) =>
      Value.table (fields.map fun field => (field.1, field.2.value)))
      tables name
    rw [hlookup] at hmap
    exact hmap
  rw [section?, hvalue]
  rfl

variable (config : Config)

theorem written_forward (absent : ForwardSettings) :
    Config.section? (config.tables.map tableValue) "forward" forward? absent =
      some config.forward := by
  rw [section?_tables rfl]
  rcases config.forward with ⟨_ | listen, _ | remote, transport⟩ <;> rfl

theorem written_stun (absent : StunSettings) :
    Config.section? (config.tables.map tableValue) "stun" stun? absent =
      some config.stun := by
  rw [section?_tables rfl]
  rcases config.stun with ⟨tcpServer, udpServer, timeout, retries⟩
  -- Unlike the texts, the numbers are compared with their limits.
  generalize hfields : _ ++ [(_, _), (_, _)] = fields
  have hserver (absent : String) : (Written.ofFields fields).string?
      "tcp_server" 0 absent = some tcpServer := hfields ▸ rfl
  have hudpServer (absent : String) : (Written.ofFields fields).string?
      "udp_server" 1 absent = some udpServer := hfields ▸ rfl
  have htimeout (absent : Nat) : (Written.ofFields fields).natural?
      "timeout_secs" 2 (UInt64.size - 1) absent = some timeout.toNat :=
    Written.natural?_ofFields absent (hfields ▸ rfl)
      (Nat.le_sub_one_of_lt timeout.toNat_lt_size)
  have hretries (absent : Nat) : (Written.ofFields fields).natural?
      "retries" 3 (UInt32.size - 1) absent = some retries.toNat :=
    Written.natural?_ofFields absent (hfields ▸ rfl)
      (Nat.le_sub_one_of_lt retries.toNat_lt_size)
  simp only [stun?, bind, Option.bind_some, hserver, hudpServer, htimeout,
    hretries, UInt64.ofNat_toNat, UInt32.ofNat_toNat]
  rfl

theorem written_dns (absent : DnsSettings) :
    Config.section? (config.tables.map tableValue) "dns" dns? absent =
      some config.dns := by
  rw [section?_tables rfl]
  rcases config.dns with
    ⟨provider, _ | id, _ | token, domain, subDomain, service⟩ <;> rfl

theorem written_logging (absent : LogSettings) :
    Config.section? (config.tables.map tableValue) "logging" logging? absent =
      some config.logging := by
  rw [section?_tables rfl]
  rfl

theorem ofTable?_tables :
    ofTable? (config.tables.map tableValue) = some config := by
  simp only [ofTable?, bind, Option.bind_some, written_forward, written_stun,
    written_dns, written_logging]
  rfl

/-! ## The normal form -/

theorem allReadable_append (fields others : List (String × Scalar)) :
    AllReadable (fields ++ others) ↔
      AllReadable fields ∧ AllReadable others :=
  List.forall_mem_append

theorem allReadable_stringField (name text : String) :
    AllReadable (stringField name text) := by
  simp [AllReadable, stringField, Scalar.IsReadable]

theorem allReadable_optionalField (name : String) (text? : Option String) :
    AllReadable (optionalField name text?) := by
  cases text? with
  | none => simp [AllReadable, optionalField]
  | some text => exact allReadable_stringField name text

theorem allReadable_tables
    (hle : config.stun.timeout.toNat ≤ timeoutLimit) :
    ∀ table ∈ config.tables, AllReadable table.2 := by
  have htimeout : config.stun.timeout.toNat < integerLimit :=
    Nat.lt_of_le_sub_one (by decide) hle
  have hretries : config.stun.retries.toNat < integerLimit :=
    config.stun.retries.toNat_lt_size.trans (by decide)
  have hnumbers : AllReadable
      [("timeout_secs", .natural config.stun.timeout.toNat),
        ("retries", .natural config.stun.retries.toNat)] := by
    simp [AllReadable, Scalar.IsReadable, htimeout, hretries]
  simp only [tables, List.forall_mem_cons, allReadable_append,
    allReadable_stringField, allReadable_optionalField, hnumbers]
  simp

theorem keysDiffer_tables : KeysDiffer config.tables := by
  have hnames : config.tables.map Prod.fst =
    ["forward", "stun", "dns", "logging"] := rfl
  rw [KeysDiffer, hnames]
  decide

theorem keysDiffer_fields :
    ∀ table ∈ config.tables, KeysDiffer table.2 := by
  rcases config with ⟨⟨listen, remote, transport⟩, stun,
    ⟨provider, id, token, domain, subDomain, service⟩, logging⟩
  simp only [tables, List.forall_mem_cons, KeysDiffer]
  cases listen <;> cases remote <;> cases id <;> cases token <;>
    simp [stringField, optionalField]

theorem parse?_toText? {text : String} (htext : config.toText? = some text) :
    parse? text = some config := by
  unfold toText? at htext
  split at htext
  case isTrue hle =>
    obtain rfl := Option.some.inj htext
    have hprint := parse?_print config.tables (allReadable_tables config hle)
      (keysDiffer_tables config) (keysDiffer_fields config)
    rw [parse?, hprint]
    exact ofTable?_tables config
  case isFalse => cases htext

/-! ## Numbers that were read -/

/-- All integers of a section are in range. -/
def Written.Fits (written : Written) : Prop :=
  ∀ ⦃name place value⦄, written.field? name place = some value → value.Fits

theorem Written.fits_of_ofValue? {value : Value} (hfits : value.Fits)
    {written : Written} (hwritten : ofValue? value = some written) :
    written.Fits := by
  intro name place item hfield
  cases hfits with
  | table entries hentries =>
      obtain rfl := Option.some.inj hwritten
      exact hentries (name, item) (mem_of_lookup hfield)
  | array items hitems =>
      obtain rfl := Option.some.inj hwritten
      exact hitems item (List.mem_of_getElem? hfield)
  | datetime text =>
      obtain rfl := Option.some.inj hwritten
      cases hfield
  | string | integer | float | boolean => cases hwritten

/-- What a section holds is its default or comes from a table in range. -/
theorem fits_of_section? {α : Type} {entries : List (String × Value)}
    (hfits : (Value.table entries).Fits) {name : String}
    {read : Written → Option α} {absent settings : α}
    (hsection : section? entries name read absent = some settings) :
    settings = absent ∨
      ∃ written : Written, written.Fits ∧ read written = some settings := by
  unfold section? at hsection
  split at hsection
  · exact .inl (Option.some.inj hsection).symm
  · next value hlookup =>
      obtain ⟨written, hwritten, hread⟩ := Option.bind_eq_some_iff.mp hsection
      cases hfits with
      | table _ hentries =>
          have hvalue := hentries (name, value) (mem_of_lookup hlookup)
          exact .inr
            ⟨written, Written.fits_of_ofValue? hvalue hwritten, hread⟩

theorem Written.Fits.natural?_lt {written : Written} (hfits : written.Fits)
    {name : String} {place limit absent value : Nat}
    (habsent : absent < integerLimit)
    (hvalue : written.natural? name place limit absent = some value) :
    value < integerLimit := by
  unfold Written.natural? at hvalue
  split at hvalue
  · exact Option.some.inj hvalue ▸ habsent
  · next number hfield =>
      split at hvalue
      · cases hfits hfield with
        | integer _ hrange =>
            obtain rfl := Option.some.inj hvalue
            have hlt : number < integerLimit := hrange.2
            omega
      · cases hvalue
  · cases hvalue

theorem timeout_le_of_stun? {written : Written} (hfits : written.Fits)
    {settings : StunSettings} (hstun : stun? written = some settings) :
    settings.timeout.toNat ≤ timeoutLimit := by
  simp only [stun?, bind, pure, Option.bind_eq_some_iff,
    Option.some.injEq] at hstun
  obtain ⟨_, _, _, _, timeout, htimeout, _, _, rfl⟩ := hstun
  have hlt := hfits.natural?_lt (by decide) htimeout
  exact Nat.le_trans (Nat.mod_le _ _) (Nat.le_sub_one_of_lt hlt)

theorem timeout_le_of_parse? {text : String}
    (hparse : parse? text = some config) :
    config.stun.timeout.toNat ≤ timeoutLimit := by
  obtain ⟨entries, hentries, htable⟩ := Option.bind_eq_some_iff.mp hparse
  simp only [ofTable?, bind, pure, Option.bind_eq_some_iff,
    Option.some.injEq] at htable
  obtain ⟨_, _, settings, hsettings, _, _, _, _, rfl⟩ := htable
  rcases fits_of_section? (fits_of_parse? hentries) hsettings with
    rfl | ⟨written, hfits, hstun⟩
  · change defaultTimeout.toNat ≤ timeoutLimit
    decide
  · exact timeout_le_of_stun? hfits hstun

/-- A configuration has a normal form exactly if its timeout is a 64-bit signed
number, and the normal form holds that configuration.  So a text that holds a
configuration can be brought into normal form, and bringing the normal form
into normal form leaves it as it is. -/
theorem toText?_roundTrip :
    (config.toText?.isSome ↔ config.stun.timeout.toNat ≤ 2 ^ 63 - 1) ∧
      (∀ text, config.toText? = some text → parse? text = some config) ∧
      ∀ text, parse? text = some config →
        ∃ normal, config.toText? = some normal ∧
          parse? normal = some config ∧
          (parse? normal).bind toText? = some normal := by
  have hlimit : timeoutLimit = 2 ^ 63 - 1 := by decide
  have hsome : config.toText?.isSome ↔
      config.stun.timeout.toNat ≤ timeoutLimit := by
    rw [toText?]
    split <;> simp_all
  refine ⟨hlimit ▸ hsome, fun text => parse?_toText? config, ?_⟩
  intro text hparse
  obtain ⟨normal, hnormal⟩ := Option.isSome_iff_exists.mp
    (hsome.mpr (timeout_le_of_parse? config hparse))
  have hback := parse?_toText? config hnormal
  exact ⟨normal, hnormal, hback, by rw [hback]; exact hnormal⟩

end Pinhole.Config
