import Letterpress.Proofs.Mail.Payment
import Letterpress.Proofs.Session.Faults
import Letterpress.Proofs.Storage.FileTree
import Letterpress.Proofs.Storage.ReadBack

/-!
# Credits in a File

A file tells its credits or the default, or it cannot be read. Whichever it is, taking
credits does one of two things: the file then tells what is left, or the job is told that
there are too few credits or that there is trouble with them, and every file is as it was.

Only directories may be there that were not there before, since they are made before it
turns out that the credits cannot be written. A path that steps up may lead elsewhere
then, so what is at a path without a file is only spoken of for paths that do not.

## Main definitions

* `FileTree.IsSound`: What is in a directory is there together with it.
* `FileTree.SparesFile`: Every file is as it was, and so is the file at a path.
* `FileTree.Takes`: A file can be written at a path.
* `Ledger.FileTells`: The credits that a file tells.

## Theorems

* `AddsDirectories.sparesFile`: New directories leave files alone.
* `storedCredits_ok`, `storedCredits_failed`: Reading credits.
* `storeCredits_ok`, `storeCredits_failed`: Writing credits.
* `reserve_allOrNothing`: Taking credits.
-/

namespace Letterpress

namespace FileTree

variable {t t' t₁ : FileTree} {p path : Path} {place q : Place} {content : Content}

theorem read_ok : t.read p = .ok content ↔
    ∃ q, t.locate p = .ok q ∧ t.find? q = some (.file content) := by
  rw [read, except_bind_ok]
  refine exists_congr fun q => and_congr_right fun _ => ?_
  cases t.find? q with
  | none => simp [throw, throwThe, MonadExceptOf.throw]
  | some entry => cases entry <;> simp [throw, throwThe, MonadExceptOf.throw, pure, Except.pure]

/-- What is in a directory is there together with the directory. -/
def IsSound (t : FileTree) : Prop :=
  ∀ place name entry, t.find? (place ++ [name]) = some entry → t.find? place = some .directory

/-- Names that do not step up lead to something that is there. -/
theorem IsSound.follow (h : t.IsSound) {names : List String} (hup : ".." ∉ names) {entry : Entry}
    (hfind : t.find? (place ++ names) = some entry) :
    t.follow place names = .ok (place ++ names) := by
  induction names using List.reverseRecOn generalizing entry with
  | nil => rw [FileTree.follow, List.append_nil]; rfl
  | append_singleton front last ih =>
      rw [List.mem_append, not_or, List.mem_singleton] at hup
      rw [← List.append_assoc] at hfind
      have hfront := h _ _ _ hfind
      rw [follow_append (ih hup.1 hfront) hfront, Place.step, if_pos (Ne.symm hup.2),
        List.append_assoc]

/-- Names that do not step up lead to one place only. -/
theorem follow_down {names : List String} (hup : ".." ∉ names)
    (hfollow : t.follow place names = .ok q) : q = place ++ names := by
  induction names generalizing place with
  | nil =>
      rw [List.append_nil]
      exact (except_pure_ok.mp hfollow).symm
  | cons name rest ih =>
      rw [List.mem_cons, not_or] at hup
      rw [FileTree.follow] at hfollow
      split at hfollow
      · rw [ih hup.2 hfollow, Place.step, if_pos (Ne.symm hup.1), List.append_assoc,
          List.singleton_append]
      · exact (except_throw_ok.mp hfollow).elim
      · exact (except_throw_ok.mp hfollow).elim

/-- Every file is as it was, and so is the file that a path leads to. If it leads to none,
    it still does, unless it steps up. -/
structure SparesFile (t t' : FileTree) (path : Path) : Prop where
  everywhere : ∀ q content, t'.find? q = some (.file content) ↔ t.find? q = some (.file content)
  present : ∀ content, t.read path = .ok content → t'.read path = .ok content
  absent : t.IsSound → ".." ∉ path.names →
    ∀ content, t'.read path = .ok content → t.read path = .ok content

/-- New directories leave files alone. -/
theorem AddsDirectories.sparesFile (h : t.AddsDirectories t') (path : Path) :
    t.SparesFile t' path := by
  have heverywhere : ∀ q content,
      t'.find? q = some (.file content) ↔ t.find? q = some (.file content) := by
    intro q content
    rcases h q with hsame | ⟨hnone, hnew⟩
    · rw [hsame]
    · rw [hnone, hnew]
      exact iff_of_false (fun hfile => nomatch hfile) (fun hfile => nomatch hfile)
  refine ⟨heverywhere, fun content hread => ?_, fun hsound hup content hread => ?_⟩
  · rcases read_ok.mp hread with ⟨q, hlocate, hfind⟩
    exact read_ok.mpr ⟨q, locate_kept h.keeps hlocate, (heverywhere q content).mpr hfind⟩
  · rcases read_ok.mp hread with ⟨q, hlocate, hfind⟩
    rw [locate, mapError_ok] at hlocate
    obtain rfl := follow_down hup hlocate
    have hfile := (heverywhere _ content).mp hfind
    refine read_ok.mpr ⟨_, ?_, hfile⟩
    rw [locate, mapError_ok]
    exact hsound.follow hup hfile

/-- A file can be written at the path: the directory that it is to be in can be made, and
    there is no directory in its place. -/
def Takes (t : FileTree) (path : Path) : Prop :=
  ∃ t', t.ensureDirectories path.parent = .ok t' ∧ t'.hasDirectory path = false

/-- The path leads to no directory, but a directory is above it. -/
theorem locate_of_parent {place : Place} (h : t.IsDirectoryAt path.parent place)
    (hself : t.hasDirectory path = false) :
    ∃ q, t.locate path = .ok q ∧ t.find? q ≠ some .directory := by
  have hdirectory : ∀ q, t.locate path = .ok q → t.find? q ≠ some .directory := by
    intro q hlocate hfind
    simp [hasDirectory, lookup?, hlocate, hfind] at hself
  rcases path with ⟨root, names⟩
  rcases names.eq_nil_or_concat' with rfl | ⟨front, last, rfl⟩
  · exact absurd h.directory (hdirectory _ h.located)
  · have hlocated := h.located
    rw [Path.parent, List.dropLast_concat, locate, mapError_ok] at hlocated
    have hself : t.locate ⟨root, front ++ [last]⟩ = .ok (place.step last) :=
      mapError_ok.mpr (follow_append hlocated h.directory last)
    exact ⟨_, hself, hdirectory _ hself⟩

/-- A file is written where there is no directory, and read there. -/
theorem write_reads (hlocate : t.locate path = .ok q) (hfind : t.find? q ≠ some .directory)
    (content : Content) :
    ∃ t', t.write path content = .ok t' ∧ t'.locate path = .ok q ∧
      t'.find? q = some (.file content) := by
  -- Given places are directories, and so they are not written.
  have hgiven : q.isGiven = false := by
    by_contra hgiven
    rw [find?, if_pos (by simpa using hgiven)] at hfind
    exact hfind rfl
  have hput := find?_put hgiven t (.file content)
  -- No directory is lost, and so the path still leads to its place.
  have hkeeps : t.KeepsDirectories (t.put q (.file content)) := by
    intro r hr
    by_cases hsame : r = q
    · exact absurd (hsame ▸ hr) hfind
    · rw [hput, if_neg hsame, hr]
  refine ⟨t.put q (.file content), ?_, locate_kept hkeeps hlocate, by rw [hput, if_pos rfl]⟩
  rw [write, except_bind_ok]
  refine ⟨q, hlocate, ?_⟩
  split
  · rename_i hdirectory
    exact absurd hdirectory hfind
  · rfl

/-- A file that can be written is written in the end. -/
theorem Takes.write (h : t.Takes path) (content : Content) :
    ∃ t₁ t' q, t.ensureDirectories path.parent = .ok t₁ ∧ t₁.write path content = .ok t' ∧
      t'.locate path = .ok q ∧ t'.find? q = some (.file content) := by
  rcases h with ⟨t₁, hmade, hself⟩
  rcases (ensureDirectories_ok hmade).2 with ⟨place, hparent⟩
  rcases locate_of_parent hparent hself with ⟨q, hlocate, hfind⟩
  rcases write_reads hlocate hfind content with ⟨t', hwrite, hlocated, hfile⟩
  exact ⟨t₁, t', q, hmade, hwrite, hlocated, hfile⟩

/-- What cannot be written is not written. -/
theorem takes_of_write (hmade : t.ensureDirectories path.parent = .ok t₁)
    (hwrite : t₁.write path content = .ok t') : t.Takes path := by
  refine ⟨t₁, hmade, ?_⟩
  rw [FileTree.write, except_bind_ok] at hwrite
  rcases hwrite with ⟨q, hlocate, hwrite⟩
  rw [hasDirectory, lookup?, hlocate]
  dsimp only
  split at hwrite
  · exact (except_throw_ok.mp hwrite).elim
  · rfl

end FileTree

namespace Ledger

variable {path : Path} {default b n : Int} {t t' : FileTree} {fault : Fault}

/-- The credits that a file tells: the default if there is no file or no such number in it. -/
inductive FileTells (t : FileTree) (path : Path) (default : Int) : Int → Prop
  | absent (h : t.has path = false) : FileTells t path default default
  | stored {j : Json} {n : Int} (h : t.readJson path = .ok j)
      (hmember : j.get? memberName = some (.int n)) : FileTells t path default n
  | silent {j : Json} (h : t.readJson path = .ok j)
      (hmember : ∀ n, j.get? memberName ≠ some (.int n)) : FileTells t path default default

theorem creditsOf_int {j : Json} (h : j.get? memberName = some (.int n)) :
    creditsOf default j = n := by
  rw [creditsOf, h]

theorem creditsOf_other {j : Json} (h : ∀ n, j.get? memberName ≠ some (.int n)) :
    creditsOf default j = default := by
  rw [creditsOf]
  split
  · exact absurd ‹_› (h _)
  · rfl

/-- What can be read is there. -/
theorem has_of_readJson {j : Json} (h : t.readJson path = .ok j) : t.has path = true := by
  rw [FileTree.readJson, except_bind_ok] at h
  rcases h with ⟨text, htext, -⟩
  rw [FileTree.readText, except_bind_ok] at htext
  rcases htext with ⟨content, hcontent, -⟩
  rcases FileTree.read_ok.mp (mapError_ok.mp hcontent) with ⟨q, hlocate, hfind⟩
  rw [FileTree.has, FileTree.lookup?, hlocate]
  exact congrArg Option.isSome hfind

/-- The credits are read exactly as the file tells them. -/
theorem storedCredits_ok :
    storedCredits path default t = .ok b ↔ FileTells t path default b := by
  rw [storedCredits]
  constructor
  · intro h
    -- The three ways of telling are the three ways in which reading ends well.
    cases hhas : t.has path with
    | false =>
        rw [hhas, if_neg Bool.false_ne_true, except_pure_ok] at h
        exact h ▸ .absent hhas
    | true =>
        rw [hhas, if_pos rfl, except_map_ok] at h
        rcases h with ⟨j, hread, rfl⟩
        by_cases hmember : ∃ n, j.get? memberName = some (.int n)
        · rcases hmember with ⟨n, hmember⟩
          rw [creditsOf_int hmember]
          exact .stored hread hmember
        · push Not at hmember
          rw [creditsOf_other hmember]
          exact .silent hread hmember
  · intro h
    cases h with
    | absent hhas =>
        rw [hhas]
        rfl
    | stored hread hmember =>
        rw [has_of_readJson hread, if_pos rfl, hread]
        exact congrArg Except.ok (creditsOf_int hmember)
    | silent hread hmember =>
        rw [has_of_readJson hread, if_pos rfl, hread]
        exact congrArg Except.ok (creditsOf_other hmember)

/-- If the credits cannot be read, the file is at fault. -/
theorem storedCredits_failed (path : Path) (default : Int) (t : FileTree) :
    FailsIn (fun fault => fault.isUnreadable = true) (storedCredits path default t) := by
  have htext : FailsIn (fun fault => fault.isUnreadable = true) (t.readText path) := by
    refine FailsIn.bind (failsIn_mapError fun _ => ?_) fun _ =>
      FailsIn.bind (failsIn_mapError fun _ => ?_) fun _ => failsIn_pure _ <;> rfl
  have hjson : FailsIn (fun fault => fault.isUnreadable = true) (t.readJson path) := by
    refine htext.bind fun _ => failsIn_mapError fun _ => ?_
    rfl
  rw [storedCredits]
  split
  · exact hjson.map _
  · exact failsIn_pure _

/-- The text of a file that tells the credits. -/
theorem fileText_ok (h : Text.isWritable n = true) :
    fileText n = .ok (Json.compact .ascii (.obj [(memberName, .int n)])) := by
  rw [fileText, if_pos h]
  rfl

theorem fileText_failed (h : Text.isWritable n ≠ true) : fileText n = .error .unwritable := by
  rw [fileText, if_neg h]
  rfl

/-- No line end is in the text. -/
theorem fileText_line (n : Int) :
    '\r' ∉ (Json.compact .ascii (.obj [(memberName, .int n)])).toList := by
  have hname : '\r' ∉ memberName.toList := by decide
  have hnumeral : '\r' ∉ (toString n).toList := fun h => absurd (numeral_chars n _ h) (by decide)
  rw [Json.toList_compact_member (by decide +kernel), Json.memberChars]
  simp only [List.mem_cons, List.mem_append, hname, hnumeral, List.not_mem_nil, or_false, false_or]
  decide

/-- A file that holds the text tells the credits. -/
theorem fileTells_text {q : Place} (h : Text.isWritable n = true)
    (hlocate : t.locate path = .ok q)
    (hfile : t.find? q
      = some (.file (.ofText (Json.compact .ascii (.obj [(memberName, .int n)])))))
    (default : Int) : FileTells t path default n := by
  have hplain : ∀ c ∈ memberName.toList, Json.isPlainChar c = true :=
    List.all_eq_true.mp (by decide)
  have hwritten : Json.writtenString .ascii memberName = "\"" ++ memberName ++ "\"" := by
    decide +kernel
  have hread := Json.read_member hplain hwritten h
  exact .stored (FileTree.readJson_file hlocate hfile (fileText_line n) hread) rfl

/-- Credits that can be written are told by the file afterwards, whatever the default. -/
theorem storeCredits_ok (htakes : t.Takes path) (hn : Text.isWritable n = true) :
    ∃ t', storeCredits path n t = (.ok (), t') ∧ ∀ default, FileTells t' path default n := by
  rcases htakes.write (.ofText (Json.compact .ascii (.obj [(memberName, .int n)])))
    with ⟨t₁, t', q, hmade, hwrite, hlocate, hfile⟩
  refine ⟨t', ?_, fileTells_text hn hlocate hfile⟩
  rw [storeCredits, hmade]
  dsimp only
  rw [fileText_ok hn]
  dsimp only
  rw [hwrite]

/-- Credits that cannot be written leave every file as it was. -/
theorem storeCredits_failed (h : ¬ (t.Takes path ∧ Text.isWritable n = true)) :
    ∃ fault t', storeCredits path n t = (.error fault, t') ∧ fault.isUnreadable = true ∧
      t.SparesFile t' path := by
  rw [storeCredits]
  cases hmade : t.ensureDirectories path.parent with
  | error e =>
      exact ⟨.file e, t, rfl, rfl, (FileTree.addsDirectories_refl t).sparesFile path⟩
  | ok t₁ =>
      have hspared := (FileTree.ensureDirectories_ok hmade).1.sparesFile path
      cases htext : fileText n with
      | error e => exact ⟨.numeral e, t₁, rfl, rfl, hspared⟩
      | ok text =>
          cases hwrite : t₁.write path (.ofText text) with
          | error e => exact ⟨.file e, t₁, by simp only [hwrite], rfl, hspared⟩
          | ok t' =>
              refine absurd ⟨FileTree.takes_of_write hmade hwrite, ?_⟩ h
              by_contra hn
              rw [fileText_failed hn] at htext
              exact nomatch htext

end Ledger

section Reserving

variable {ω K : Type}

/-- Trouble with a file is reported as trouble with the credits. -/
theorem useLedger_stopped {α : Type} (request : Request K) {use : ω → Outcome ω α}
    {s : Session ω K} {fault : Fault} (h : (use s.world).result = .error fault)
    (hfault : fault.isUnreadable = true) :
    ∃ s', useLedger request use s = (.error .creditStorage, s') ∧
      s'.world = (use s.world).world := by
  refine ⟨⟨(use s.world).world, s.requests ++ [request], s.journal ++ (use s.world).notices
    ++ [⟨.error, "Credit storage error: " ++ fault.message⟩]⟩, ?_, rfl⟩
  rw [useLedger, Task.bind_run]
  simp only [Task.attempt, Task.ask, h]
  rw [if_pos hfault, Task.bind_run]
  rfl

variable {ledger : Ledger ω} {s : Session ω K} {b required : Int}

/-- No credits are taken if they cannot be read. -/
theorem reserve_unreadable {fault : Fault} (h : (ledger.balance s.world).result = .error fault)
    (hfault : fault.isUnreadable = true) (required : Int) :
    ∃ s', reserve ledger required s = (.error .creditStorage, s') ∧
      s'.world = (ledger.balance s.world).world := by
  rcases useLedger_stopped .balance h hfault with ⟨s', hread, hworld⟩
  refine ⟨s', ?_, hworld⟩
  rw [reserve, Task.bind_run, readBalance, hread]

/-- No credits are taken if there are too few of them. -/
theorem reserve_few (h : (ledger.balance s.world).result = .ok b) (hless : b < required) :
    ∃ s', reserve ledger required s = (.error (.insufficientCredits required b), s') ∧
      s'.world = (ledger.balance s.world).world := by
  rcases useLedger_run .balance h with ⟨s', hread, hworld⟩
  refine ⟨s', ?_, hworld⟩
  rw [reserve, Task.bind_run, readBalance, hread]
  dsimp only
  rw [if_pos hless]
  rfl

/-- If there are enough credits, the rest is written. -/
theorem reserve_enough (h : (ledger.balance s.world).result = .ok b) (henough : required ≤ b) :
    ∃ s', s'.world = (ledger.balance s.world).world ∧ reserve ledger required s
      = (writeBalance ledger (b - required) >>= fun _ => pure (b - required)) s' := by
  rcases useLedger_run .balance h with ⟨s', hread, hworld⟩
  refine ⟨s', hworld, ?_⟩
  rw [reserve, Task.bind_run, readBalance, hread]
  simp only [Int.not_lt.mpr henough, if_false]

end Reserving

section FromFile

variable {K : Type} {path : Path} {default b required : Int} {s : Session FileTree K}

/-- Enough credits that can be written are taken, and the file tells what is left. -/
theorem reserve_written (htells : Ledger.FileTells s.world path default b)
    (henough : required ≤ b) (htakes : s.world.Takes path)
    (hwritable : Text.isWritable (b - required) = true) :
    ∃ s', reserve (fileLedger path default) required s = (.ok (b - required), s') ∧
      ∀ default', ((fileLedger path default').balance s'.world).result = .ok (b - required) := by
  have hbalance : ((fileLedger path default).balance s.world).result = .ok b :=
    Ledger.storedCredits_ok.mpr htells
  rcases reserve_enough hbalance henough with ⟨s₁, hworld, hreserve⟩
  rcases Ledger.storeCredits_ok htakes hwritable with ⟨t', hstore, hafter⟩
  have hset : ((fileLedger path default).setBalance (b - required) s₁.world).result = .ok () := by
    rw [hworld]
    exact congrArg Prod.fst hstore
  rcases useLedger_run (.setBalance (b - required)) hset with ⟨s₂, hwrite, hworld₂⟩
  rw [hworld] at hworld₂
  obtain rfl : s₂.world = t' := hworld₂.trans (congrArg Prod.snd hstore)
  refine ⟨s₂, ?_, fun default' => Ledger.storedCredits_ok.mpr (hafter default')⟩
  rw [hreserve, Task.bind_run, writeBalance, hwrite]
  rfl

/-- Enough credits that cannot be written are not taken. -/
theorem reserve_unwritten (htells : Ledger.FileTells s.world path default b)
    (henough : required ≤ b)
    (hcannot : ¬ (s.world.Takes path ∧ Text.isWritable (b - required) = true)) :
    ∃ s', reserve (fileLedger path default) required s = (.error .creditStorage, s') ∧
      s.world.SparesFile s'.world path := by
  have hbalance : ((fileLedger path default).balance s.world).result = .ok b :=
    Ledger.storedCredits_ok.mpr htells
  rcases reserve_enough hbalance henough with ⟨s₁, hworld, hreserve⟩
  rcases Ledger.storeCredits_failed hcannot with ⟨fault, t', hstore, hfault, hspared⟩
  have hset : ((fileLedger path default).setBalance (b - required) s₁.world).result
      = .error fault := by
    rw [hworld]
    exact congrArg Prod.fst hstore
  rcases useLedger_stopped (.setBalance (b - required)) hset hfault with ⟨s₂, hwrite, hworld₂⟩
  rw [hworld] at hworld₂
  obtain rfl : s₂.world = t' := hworld₂.trans (congrArg Prod.snd hstore)
  refine ⟨s₂, ?_, hspared⟩
  rw [hreserve, Task.bind_run, writeBalance, hwrite]

/-- A file with five credits, of which two are taken. -/
example : (reserve (fileLedger ⟨"", ["credits.json"]⟩ 9) 2
    (⟨⟨[(["credits.json"], .file (.ofText "\x7b\"tableCredits\": 5\x7d"))]⟩, [], []⟩ :
      Session FileTree Unit)).1 = .ok 3 := by
  decide +kernel

end FromFile

end Letterpress
