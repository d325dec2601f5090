import Pinhole.Config.File
import Pinhole.Proofs.Config.RoundTrip
import Pinhole.Proofs.Files

/-!
# Loading brings a file into normal form once

A configuration is loaded exactly if the file holds one.  The only thing that
is ever written is the normal form, over a text that is not the normal form
already; so the first load that succeeds in writing is the last that writes.
-/

namespace Pinhole

namespace FileTree

/-- Whether the file that a path leads to can be opened for writing. -/
def Writable (tree : FileTree) (path : String) : Prop :=
  ∃ place contents, tree.FileAt path place contents true

end FileTree

namespace Config

/-- The file holds a text, and the text a configuration. -/
def HeldIn (config : Config) (tree : FileTree) (path : String) : Prop :=
  ∃ text, tree.read path = .ok text.toUTF8 ∧ parse? text = some config

/-- The file holds the normal form of a configuration, byte for byte. -/
def NormalIn (config : Config) (tree : FileTree) (path : String) : Prop :=
  ∃ normal, config.toText? = some normal ∧
    tree.read path = .ok normal.toUTF8

/-- What becomes of a tree of files from which a configuration was loaded. -/
structure Loaded (before : FileTree) (path : String) (config : Config)
    (writeBack : WriteBack) (after : FileTree) : Prop where
  held : config.HeldIn before path
  unchanged_iff : writeBack = .unchanged ↔ config.NormalIn before path
  rewritten_iff : writeBack = .rewritten ↔
    ¬ config.NormalIn before path ∧ before.Writable path
  failed_iff : (∃ error, writeBack = .failed error) ↔
    ¬ config.NormalIn before path ∧ ¬ before.Writable path
  untouched : writeBack ≠ .rewritten → after = before
  normal : writeBack = .rewritten → config.NormalIn after path
  others : ∀ other, before.place other ≠ before.place path →
    after.read other = before.read other
  settled : (∀ error, writeBack ≠ .failed error) →
    ∀ count, ((List.replicate count path).mapM load).run after =
      (List.replicate count (.ok (config, .unchanged)), after)

variable {tree : FileTree} {path text normal : String} {config : Config}

theorem read_eq_ok_iff :
    Config.read tree path = .ok (config, text) ↔
      tree.read path = .ok text.toUTF8 ∧ parse? text = some config := by
  rw [Config.read, bind_eq_ok_iff, ← FileTree.readText_eq_ok_iff]
  cases tree.readText path with
  | error cause => simp [Except.mapError]
  | ok found =>
      simp only [Except.mapError, Except.ok.injEq, exists_eq_left']
      cases hparse : parse? found with
      | none =>
          constructor
          · intro hread
            cases hread
          · rintro ⟨rfl, hconfig⟩
            rw [hparse] at hconfig
            cases hconfig
      | some parsed =>
          constructor
          · intro hread
            cases hread
            exact ⟨rfl, hparse⟩
          · rintro ⟨rfl, hconfig⟩
            rw [hparse] at hconfig
            cases hconfig
            rfl

/-! ## One load -/

theorem run_load (tree : FileTree) (path : String) :
    (load path).run tree =
      match Config.read tree path with
      | .error error => (.error error, tree)
      | .ok (config, text) =>
          match config.toText? with
          | none => (.error .unwritable, tree)
          | some normal =>
              if normal = text then (.ok (config, .unchanged), tree)
              else
                match (config.save path).run tree with
                | (.ok (), after) => (.ok (config, .rewritten), after)
                | (.error error, after) =>
                    (.ok (config, .failed error), after) := by
  unfold load
  simp only [StateT.run, bind, StateT.bind, get, getThe,
    MonadStateOf.get, StateT.get, pure]
  cases Config.read tree path with
  | error error => rfl
  | ok loaded =>
      dsimp only
      cases loaded.1.toText? with
      | none => rfl
      | some normal =>
          dsimp only
          split
          · rfl
          · simp only [StateT.bind]
            rcases loaded.1.save path tree with ⟨_ | _, after⟩ <;> rfl

/-- Nothing is written over a file that holds the normal form. -/
theorem load_of_normalIn (hnormalIn : config.NormalIn tree path) :
    (load path).run tree = (.ok (config, .unchanged), tree) := by
  obtain ⟨normal, hnormal, hread⟩ := hnormalIn
  have hloaded : Config.read tree path = .ok (config, normal) :=
    read_eq_ok_iff.mpr ⟨hread, parse?_toText? config hnormal⟩
  rw [run_load, hloaded]
  simp only [hnormal, if_true]

theorem run_save {place : Place} {contents : ByteArray}
    {writable : Bool} (hnormal : config.toText? = some normal)
    (hfileAt : tree.FileAt path place contents writable) :
    (config.save path).run tree =
      if writable then
        (.ok (), tree.put place (.file normal.toUTF8 true))
      else (.error (.system .permissionDenied), tree) := by
  have hwrite : FileTree.writeText path normal tree = _ :=
    hfileAt.writeText normal
  simp only [save, hnormal, StateT.run, bind, StateT.bind, ExceptT.run,
    hwrite]
  cases writable <;> rfl

/-- Any other text is replaced, unless the file must not be written. -/
theorem load_of_ne {place : Place} {writable : Bool}
    (hparse : parse? text = some config)
    (hnormal : config.toText? = some normal) (hne : normal ≠ text)
    (hfileAt : tree.FileAt path place text.toUTF8 writable) :
    (load path).run tree =
      if writable then
        (.ok (config, .rewritten),
          tree.put place (.file normal.toUTF8 true))
      else
        (.ok (config, .failed (.system .permissionDenied)), tree) := by
  have hread : tree.read path = .ok text.toUTF8 :=
    FileTree.read_eq_ok_iff.mpr ⟨place, writable, hfileAt⟩
  have hloaded : Config.read tree path = .ok (config, text) :=
    read_eq_ok_iff.mpr ⟨hread, hparse⟩
  rw [run_load, hloaded]
  simp only [hnormal, if_neg hne, run_save hnormal hfileAt]
  cases writable <;> rfl

/-! ## Further loads -/

theorem mapM_load_of_normalIn (hnormalIn : config.NormalIn tree path)
    (count : Nat) :
    ((List.replicate count path).mapM load).run tree =
      (List.replicate count (.ok (config, .unchanged)), tree) := by
  induction count with
  | zero => rfl
  | succ count ih =>
      have hload : load path tree = (.ok (config, .unchanged), tree) :=
        load_of_normalIn hnormalIn
      have hrest : (List.replicate count path).mapM load tree = _ := ih
      rw [List.replicate_succ, List.mapM_cons, List.replicate_succ]
      simp only [StateT.run, bind, StateT.bind, hload, hrest]
      rfl

/-! ## What becomes of the file -/

theorem loaded_of_normalIn (hnormalIn : config.NormalIn tree path) :
    Loaded tree path config .unchanged tree where
  held := by
    obtain ⟨normal, hnormal, hread⟩ := hnormalIn
    exact ⟨normal, hread, parse?_toText? config hnormal⟩
  unchanged_iff := iff_of_true rfl hnormalIn
  rewritten_iff := by simp [hnormalIn]
  failed_iff := by simp [hnormalIn]
  untouched _ := rfl
  normal := by simp
  others _ _ := rfl
  settled _ := mapM_load_of_normalIn hnormalIn

theorem writable_iff {place : Place} {contents : ByteArray}
    {writable : Bool}
    (hfileAt : tree.FileAt path place contents writable) :
    tree.Writable path ↔ writable = true := by
  constructor
  · rintro ⟨_, _, hleads, hfile⟩
    rw [hfileAt.leads, Except.ok.injEq] at hleads
    rw [← hleads, hfileAt.file] at hfile
    cases hfile
    rfl
  · rintro rfl
    exact ⟨place, contents, hfileAt⟩

theorem not_normalIn (hnormal : config.toText? = some normal)
    (hne : normal ≠ text) (hread : tree.read path = .ok text.toUTF8) :
    ¬ config.NormalIn tree path := by
  rintro ⟨other, hother, hnormalIn⟩
  rw [hnormal, Option.some.injEq] at hother
  rw [hread, ← hother, Except.ok.injEq] at hnormalIn
  exact hne (String.toByteArray_inj.mp hnormalIn).symm

theorem loaded_of_put {place : Place}
    (hparse : parse? text = some config)
    (hnormal : config.toText? = some normal) (hne : normal ≠ text)
    (hfileAt : tree.FileAt path place text.toUTF8 true) :
    Loaded tree path config .rewritten
      (tree.put place (.file normal.toUTF8 true)) := by
  have hread : tree.read path = .ok text.toUTF8 :=
    FileTree.read_eq_ok_iff.mpr ⟨place, true, hfileAt⟩
  have hdiffers := not_normalIn hnormal hne hread
  have hnormalIn : config.NormalIn
      (tree.put place (.file normal.toUTF8 true)) path :=
    ⟨normal, hnormal, FileTree.read_eq_ok_iff.mpr
      ⟨place, true, hfileAt.put normal.toUTF8⟩⟩
  exact
    { held := ⟨text, hread, hparse⟩
      unchanged_iff := by simp [hdiffers]
      rewritten_iff := by simp [hdiffers, writable_iff hfileAt]
      failed_iff := by simp [writable_iff hfileAt]
      untouched := by simp
      normal := fun _ => hnormalIn
      others := fun other hother => hfileAt.read_put_of_ne _ hother
      settled := fun _ => mapM_load_of_normalIn hnormalIn }

theorem loaded_of_failed {place : Place} {error : SaveError}
    (hparse : parse? text = some config)
    (hnormal : config.toText? = some normal) (hne : normal ≠ text)
    (hfileAt : tree.FileAt path place text.toUTF8 false) :
    Loaded tree path config (.failed error) tree := by
  have hread : tree.read path = .ok text.toUTF8 :=
    FileTree.read_eq_ok_iff.mpr ⟨place, false, hfileAt⟩
  have hdiffers := not_normalIn hnormal hne hread
  exact
    { held := ⟨text, hread, hparse⟩
      unchanged_iff := by simp [hdiffers]
      rewritten_iff := by simp [writable_iff hfileAt]
      failed_iff := by simp [hdiffers, writable_iff hfileAt]
      untouched := fun _ => rfl
      normal := by simp
      others := fun _ _ => rfl
      settled := fun hsettled => absurd rfl (hsettled error) }

/-- A load fails exactly if the file holds no configuration, and then it
changes nothing.  Otherwise it tells the configuration that was there, and
the file holds the normal form from then on, unless it cannot be written. -/
theorem load_normalises (before : FileTree) (path : String) :
    match (load path).run before with
    | (.error _, after) =>
        after = before ∧ ∀ config : Config, ¬ config.HeldIn before path
    | (.ok (config, writeBack), after) =>
        Loaded before path config writeBack after := by
  cases hloaded : Config.read before path with
  | error error =>
      have hload := run_load before path
      rw [hloaded] at hload
      rw [hload]
      refine ⟨rfl, ?_⟩
      rintro config ⟨text, hread, hparse⟩
      have hok := read_eq_ok_iff.mpr ⟨hread, hparse⟩
      rw [hloaded] at hok
      cases hok
  | ok loaded =>
      obtain ⟨config, text⟩ := loaded
      obtain ⟨hread, hparse⟩ := read_eq_ok_iff.mp hloaded
      obtain ⟨place, writable, hfileAt⟩ :=
        FileTree.read_eq_ok_iff.mp hread
      have hnormal : config.toText? =
          some (Toml.print config.tables) :=
        if_pos (timeout_le_of_parse? config hparse)
      by_cases hsame : Toml.print config.tables = text
      · have hnormalIn : config.NormalIn before path :=
          ⟨text, hsame ▸ hnormal, hread⟩
        rw [load_of_normalIn hnormalIn]
        exact loaded_of_normalIn hnormalIn
      · rw [load_of_ne hparse hnormal hsame hfileAt]
        cases writable with
        | true => exact loaded_of_put hparse hnormal hsame hfileAt
        | false => exact loaded_of_failed hparse hnormal hsame hfileAt

end Config

end Pinhole
