import Pinhole.Proofs.Toml.Entries
import Pinhole.Toml.Document

/-!
# The integers of a document

Whatever form an integer is written in and however deep it stands in arrays and
tables, a document that is read holds it with 64 bits and a sign.
-/

namespace Pinhole.Toml

def InRange (value : Int) : Prop :=
  -(integerLimit : Int) ≤ value ∧ value < integerLimit

/-- All integers of the value are in range. -/
inductive Value.Fits : Value → Prop
  | string (text : String) : Fits (.string text)
  | integer (value : Int) (hrange : InRange value) : Fits (.integer value)
  | float (text : String) : Fits (.float text)
  | boolean (value : Bool) : Fits (.boolean value)
  | datetime (text : String) : Fits (.datetime text)
  | array (items : List Value) (hitems : ∀ item ∈ items, Fits item) :
      Fits (.array items)
  | table (entries : List (String × Value))
      (hentries : ∀ entry ∈ entries, Fits entry.2) : Fits (.table entries)

/-! ## Values without quotes -/

theorem inRange_of_inRange? {value kept : Int}
    (hkept : inRange? value = some kept) : InRange kept := by
  unfold inRange? at hkept
  split at hkept
  case isTrue hrange => exact Option.some.inj hkept ▸ hrange
  case isFalse => cases hkept

theorem inRange_of_basedInteger? {base : Nat} {isDigit : Char → Bool}
    {digits : List Char} {value : Int}
    (hvalue : basedInteger? base isDigit digits = some value) :
    InRange value := by
  unfold basedInteger? at hvalue
  split at hvalue
  case isTrue => exact inRange_of_inRange? hvalue
  case isFalse => cases hvalue

theorem inRange_of_integer? {text : List Char} {value : Int}
    (hvalue : integer? text = some value) : InRange value := by
  unfold integer? at hvalue
  split at hvalue
  · exact inRange_of_basedInteger? hvalue
  · exact inRange_of_basedInteger? hvalue
  · exact inRange_of_basedInteger? hvalue
  · dsimp only at hvalue
    split at hvalue
    case isTrue => exact inRange_of_inRange? hvalue
    case isFalse => cases hvalue

theorem fits_of_bareValue? {text : List Char} {value : Value}
    (hvalue : bareValue? text = some value) : value.Fits := by
  unfold bareValue? at hvalue
  split at hvalue
  · exact Option.some.inj hvalue ▸ .boolean true
  split at hvalue
  · exact Option.some.inj hvalue ▸ .boolean false
  split at hvalue
  · exact Option.some.inj hvalue ▸ .datetime _
  split at hvalue
  · exact Option.some.inj hvalue ▸ .float _
  obtain ⟨integer, hinteger, rfl⟩ := Option.map_eq_some_iff.mp hvalue
  exact .integer integer (inRange_of_integer? hinteger)

/-- A reader that reads values that fit. -/
def Careful (readItem : List Char → Option (Value × List Char)) : Prop :=
  ∀ ⦃text rest value⦄, readItem text = some (value, rest) → value.Fits

theorem careful_readBare : Careful readBare := by
  intro text rest value hread
  obtain ⟨found, hfound, hpair⟩ := Option.bind_eq_some_iff.mp hread
  cases hpair
  exact fits_of_bareValue? hfound

/-! ## Arrays and inline tables -/

section Nested

variable {readItem : List Char → Option (Value × List Char)}

theorem fits_of_readItems (hcareful : Careful readItem)
    {text rest : List Char} {items : List Value}
    (hread : readItems readItem text = some (items, rest)) :
    ∀ item ∈ items, item.Fits := by
  fun_induction readItems readItem text generalizing items rest with
  | case1 =>
      cases hread
      simp
  | case3 text item behind after hclose hopen hitem =>
      cases hread
      simpa using hcareful hitem
  | case4 text item behind after hcomma hlt hopen hitem ih =>
      obtain ⟨⟨others, left⟩, hrest, hpair⟩ := Option.map_eq_some_iff.mp hread
      cases hpair
      exact List.forall_mem_cons.mpr ⟨hcareful hitem, ih hrest⟩
  | case2 | case5 | case6 => cases hread

theorem fits_of_readPair (hcareful : Careful readItem)
    {text rest : List Char} {pair : Path × Value}
    (hread : readPair readItem text = some (pair, rest)) : pair.2.Fits := by
  obtain ⟨⟨path, behind⟩, hkey, hrest⟩ := Option.bind_eq_some_iff.mp hread
  dsimp only at hrest
  split at hrest
  · obtain ⟨⟨value, behind⟩, hvalue, hpair⟩ :=
      Option.bind_eq_some_iff.mp hrest
    cases hpair
    exact hcareful hvalue
  · cases hrest

theorem fits_of_readPairs (hcareful : Careful readItem)
    {text rest : List Char} {pairs : List (Path × Value)}
    (hread : readPairs readItem text = some (pairs, rest)) :
    ∀ pair ∈ pairs, pair.2.Fits := by
  fun_induction readPairs readItem text generalizing pairs rest with
  | case2 text pair behind hpair after hclose =>
      cases hread
      simpa using fits_of_readPair hcareful hpair
  | case3 text pair behind hpair after hcomma hlt ih =>
      obtain ⟨⟨others, left⟩, hrest, hcons⟩ := Option.map_eq_some_iff.mp hread
      cases hcons
      exact List.forall_mem_cons.mpr
        ⟨fits_of_readPair hcareful hpair, ih hrest⟩
  | case1 | case4 | case5 => cases hread

end Nested

/-! ## Tables -/

/-- All integers of the node are in range. -/
inductive Node.Fits : Node → Prop
  | value (value : Value) (hvalue : value.Fits) : Fits (.value value)
  | table (origin : Origin) (entries : Entries)
      (hentries : ∀ entry ∈ entries, Fits entry.2) :
      Fits (.table origin entries)
  | tables (before : List Entries) (last : Entries)
      (hbefore : ∀ entries ∈ before, ∀ entry ∈ entries, Fits entry.2)
      (hlast : ∀ entry ∈ last, Fits entry.2) : Fits (.tables before last)

def Entries.Fit (entries : Entries) : Prop :=
  ∀ entry ∈ entries, entry.2.Fits

theorem fits_of_entries {entries : Entries}
    (hentries : ∀ entry ∈ entries, entry.2.toValue.Fits) :
    (Value.table (entriesToValues entries)).Fits := by
  rw [entriesToValues_eq_map]
  exact .table _ (List.forall_mem_map.mpr hentries)

theorem Node.Fits.toValue {node : Node} (hfits : node.Fits) :
    node.toValue.Fits := by
  induction hfits with
  | value value hvalue => exact hvalue
  | table origin entries hentries ih =>
      rw [Node.toValue]
      exact fits_of_entries ih
  | tables before last hbefore hlast ihbefore ihlast =>
      rw [Node.toValue, elementsToValues_eq_map]
      apply Value.Fits.array
      rw [List.forall_mem_append]
      exact ⟨List.forall_mem_map.mpr fun entries hmem =>
          fits_of_entries (ihbefore entries hmem),
        by simpa using fits_of_entries ihlast⟩

theorem Node.Fits.entries {origin : Origin} {entries : Entries}
    (hfits : (Node.table origin entries).Fits) : entries.Fit := by
  cases hfits with
  | table _ _ hentries => exact hentries

theorem Node.Fits.elements {before : List Entries} {last : Entries}
    (hfits : (Node.tables before last).Fits) :
    (∀ entries ∈ before, entries.Fit) ∧ last.Fit := by
  cases hfits with
  | tables _ _ hbefore hlast => exact ⟨hbefore, hlast⟩

namespace Entries

variable {entries : Entries}

theorem Fit.nil : Fit [] := by
  intro entry hmem
  cases hmem

theorem Fit.append (hfit : entries.Fit) {key : String} {node : Node}
    (hnode : node.Fits) : Fit (entries ++ [(key, node)]) := by
  rw [Fit, List.forall_mem_append]
  exact ⟨hfit, by simpa using hnode⟩

theorem Fit.replace (hfit : entries.Fit) (key : String) {node : Node}
    (hnode : node.Fits) : (entries.replace key node).Fit := by
  intro entry hmem
  obtain ⟨old, hold, rfl⟩ := List.mem_map.mp hmem
  split
  · exact hnode
  · exact hfit old hold

theorem Fit.of_lookup (hfit : entries.Fit) {key : String} {node : Node}
    (hlookup : entries.lookup key = some node) : node.Fits :=
  hfit (key, node) (mem_of_lookup hlookup)

theorem Fit.assign (hfit : entries.Fit) {path : Path} {value : Value}
    (hvalue : value.Fits) {result : Entries}
    (hassign : entries.assign path value = some result) : result.Fit := by
  fun_induction Entries.assign entries path value generalizing result with
  | case3 entries key habsent =>
      cases hassign
      exact hfit.append (.value value hvalue)
  | case4 entries key next rest habsent ih =>
      obtain ⟨inner, hinner, hresult⟩ := Option.bind_eq_some_iff.mp hassign
      cases hresult
      exact hfit.append (.table _ _ (ih Fit.nil hinner))
  | case5 entries key next rest old hlookup ih
  | case7 entries key next rest old hlookup hlong ih =>
      obtain ⟨inner, hinner, hresult⟩ := Option.bind_eq_some_iff.mp hassign
      cases hresult
      have hold := (hfit.of_lookup hlookup).entries
      exact hfit.replace key (.table _ _ (ih hold hinner))
  | case9 entries key next rest before old hlookup hlong ih =>
      obtain ⟨last, hlast, hresult⟩ := Option.bind_eq_some_iff.mp hassign
      cases hresult
      obtain ⟨hbefore, hold⟩ := (hfit.of_lookup hlookup).elements
      exact hfit.replace key (.tables _ _ hbefore (ih hold hlast))
  | case1 | case2 | case6 | case8 | case10 | case11 => cases hassign

theorem Fit.descend {change : Entries → Option Entries}
    (hchange : ∀ {entries result : Entries}, entries.Fit →
      change entries = some result → result.Fit)
    (hfit : entries.Fit) {path : Path} {result : Entries}
    (hdescend : entries.descend change path = some result) : result.Fit := by
  fun_induction Entries.descend change entries path generalizing result with
  | case1 entries => exact hchange hfit hdescend
  | case2 entries key rest habsent ih =>
      obtain ⟨inner, hinner, hresult⟩ := Option.bind_eq_some_iff.mp hdescend
      cases hresult
      exact hfit.append (.table _ _ (ih Fit.nil hinner))
  | case3 entries key rest origin old hlookup ih =>
      obtain ⟨inner, hinner, hresult⟩ := Option.bind_eq_some_iff.mp hdescend
      cases hresult
      have hold := (hfit.of_lookup hlookup).entries
      exact hfit.replace key (.table _ _ (ih hold hinner))
  | case4 entries key rest before old hlookup ih =>
      obtain ⟨last, hlast, hresult⟩ := Option.bind_eq_some_iff.mp hdescend
      cases hresult
      obtain ⟨hbefore, hold⟩ := (hfit.of_lookup hlookup).elements
      exact hfit.replace key (.tables _ _ hbefore (ih hold hlast))
  | case5 => cases hdescend

theorem Fit.openTable (hfit : entries.Fit) {key : String} {result : Entries}
    (hopen : Entries.openTable key entries = some result) : result.Fit := by
  unfold Entries.openTable at hopen
  split at hopen
  · cases hopen
    exact hfit.append (.table _ _ Fit.nil)
  · next inner hlookup =>
      cases hopen
      have hinner := (hfit.of_lookup hlookup).entries
      exact hfit.replace key (.table _ _ hinner)
  · cases hopen

theorem Fit.openElement (hfit : entries.Fit) {key : String}
    {result : Entries}
    (hopen : Entries.openElement key entries = some result) :
    result.Fit := by
  unfold Entries.openElement at hopen
  split at hopen
  · cases hopen
    exact hfit.append (.tables _ _ (by simp) Fit.nil)
  · next before last hlookup =>
      cases hopen
      obtain ⟨hbefore, hlast⟩ := (hfit.of_lookup hlookup).elements
      have helements : ∀ entries ∈ before ++ [last], Entries.Fit entries := by
        rw [List.forall_mem_append]
        exact ⟨hbefore, by simpa using hlast⟩
      exact hfit.replace key (.tables _ _ helements Fit.nil)
  · cases hopen

end Entries

/-- What every item of a list preserves is preserved by all of them. -/
theorem foldlM_preserves {State Item : Type} {P : State → Prop}
    {step : State → Item → Option State} (items : List Item)
    (hstep : ∀ item ∈ items, ∀ {state next : State}, P state →
      step state item = some next → P next)
    {state result : State} (hstate : P state)
    (hfold : items.foldlM step state = some result) : P result := by
  induction items generalizing state with
  | nil => exact Option.some.inj hfold ▸ hstate
  | cons item items ih =>
      rw [List.forall_mem_cons] at hstep
      rw [List.foldlM_cons] at hfold
      obtain ⟨next, hnext, hrest⟩ := Option.bind_eq_some_iff.mp hfold
      exact ih hstep.2 (hstep.1 hstate hnext) hrest

theorem fits_of_inlineTable? {pairs : List (Path × Value)} {value : Value}
    (hpairs : ∀ pair ∈ pairs, pair.2.Fits)
    (hvalue : inlineTable? pairs = some value) : value.Fits := by
  obtain ⟨entries, hfold, htable⟩ := Option.bind_eq_some_iff.mp hvalue
  cases htable
  have hfit : Entries.Fit entries := by
    refine foldlM_preserves pairs ?_ Entries.Fit.nil hfold
    intro pair hmem entries result hfit hassign
    exact hfit.assign (hpairs pair hmem) hassign
  exact fits_of_entries fun entry hmem => (hfit entry hmem).toValue

/-! ## Documents -/

theorem careful_readValue (depth : Nat) : Careful (readValue depth) := by
  induction depth using Nat.strongRecOn with
  | ind depth ih =>
    intro text rest value hread
    revert hread
    -- Items are read by the reader of the depth below, as a whole: the cases of
    -- a recursion on the text would say nothing about it.
    fun_cases readValue depth text with
    | case1 | case2 =>
        intro hread
        obtain ⟨_, _, hpair⟩ := Option.map_eq_some_iff.mp hread
        cases hpair
        exact .string _
    | case3 depth behind =>
        intro hread
        obtain ⟨⟨items, after⟩, hitems, hpair⟩ :=
          Option.map_eq_some_iff.mp hread
        cases hpair
        exact .array items (fits_of_readItems (ih depth (by omega)) hitems)
    | case4 =>
        rintro ⟨⟩
        exact .table [] (by simp)
    | case5 depth behind =>
        intro hread
        obtain ⟨⟨pairs, after⟩, hpairs, hrest⟩ :=
          Option.bind_eq_some_iff.mp hread
        obtain ⟨table, htable, hpair⟩ := Option.bind_eq_some_iff.mp hrest
        cases hpair
        exact fits_of_inlineTable?
          (fits_of_readPairs (ih depth (by omega)) hpairs) htable
    | case6 | case7 =>
        rintro ⟨⟩
    | case8 => exact fun hread => careful_readBare hread

/-- All integers of the statement are in range. -/
def Statement.Fits : Statement → Prop
  | assign _ value => value.Fits
  | table _ | element _ => True

theorem fits_of_readStatement {text rest : List Char} {statement : Statement}
    (hread : readStatement text = some (statement, rest)) :
    statement.Fits := by
  unfold readStatement at hread
  split at hread
  · obtain ⟨⟨path, behind⟩, _, hrest⟩ := Option.bind_eq_some_iff.mp hread
    split at hrest
    · cases hrest
      exact trivial
    · cases hrest
  · obtain ⟨⟨path, behind⟩, _, hrest⟩ := Option.bind_eq_some_iff.mp hread
    split at hrest
    · cases hrest
      exact trivial
    · cases hrest
  · obtain ⟨⟨⟨path, value⟩, behind⟩, hpair, hrest⟩ :=
      Option.bind_eq_some_iff.mp hread
    cases hrest
    exact fits_of_readPair (careful_readValue _) hpair

theorem fits_of_readStatements {text : List Char}
    {statements : List Statement}
    (hread : readStatements text = some statements) :
    ∀ statement ∈ statements, statement.Fits := by
  fun_induction readStatements text generalizing statements with
  | case1 =>
      cases hread
      simp
  | case4 text statement behind rest hend hlt hopen hstatement ih =>
      obtain ⟨others, hrest, rfl⟩ := Option.map_eq_some_iff.mp hread
      exact List.forall_mem_cons.mpr
        ⟨fits_of_readStatement hstatement, ih hrest⟩
  | case2 | case3 | case5 => cases hread

def Draft.Fits (draft : Draft) : Prop :=
  Entries.Fit draft.entries

theorem Draft.Fits.add? {draft next : Draft} {statement : Statement}
    (hfits : draft.Fits) (hstatement : statement.Fits)
    (hadd : draft.add? statement = some next) : next.Fits := by
  cases statement with
  | assign path value =>
      obtain ⟨entries, hentries, hnext⟩ := Option.bind_eq_some_iff.mp hadd
      cases hnext
      exact Entries.Fit.descend
        (fun hinner hassign => hinner.assign hstatement hassign) hfits hentries
  | table path =>
      obtain ⟨key, _, hopen⟩ := Option.bind_eq_some_iff.mp hadd
      obtain ⟨entries, hentries, hnext⟩ := Option.bind_eq_some_iff.mp hopen
      cases hnext
      exact Entries.Fit.descend
        (fun hinner => hinner.openTable) hfits hentries
  | element path =>
      obtain ⟨key, _, hopen⟩ := Option.bind_eq_some_iff.mp hadd
      obtain ⟨entries, hentries, hnext⟩ := Option.bind_eq_some_iff.mp hopen
      cases hnext
      exact Entries.Fit.descend
        (fun hinner => hinner.openElement) hfits hentries

/-- All integers of a document that is read are in range. -/
theorem fits_of_parse? {text : String} {entries : List (String × Value)}
    (hparse : parse? text = some entries) : (Value.table entries).Fits := by
  obtain ⟨statements, hread, htable⟩ := Option.bind_eq_some_iff.mp hparse
  obtain ⟨draft, hbuild, hentries⟩ := Option.bind_eq_some_iff.mp htable
  cases hentries
  have hstatements := fits_of_readStatements hread
  have hempty : Draft.Fits ⟨[], []⟩ := Entries.Fit.nil
  have hfits : draft.Fits := by
    refine foldlM_preserves statements ?_ hempty hbuild
    intro statement hmem draft next hfits hadd
    exact hfits.add? (hstatements statement hmem) hadd
  exact fits_of_entries fun entry hmem => (hfits entry hmem).toValue

end Pinhole.Toml
