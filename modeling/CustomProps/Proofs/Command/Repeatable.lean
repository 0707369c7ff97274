import CustomProps.Proofs.Command.Ending
import CustomProps.Proofs.Files.Rewritten
/-!
# Actions that can be repeated

An action that writes only to places that it never reads from can be carried out once more where it
ended well: it reads the same again, finds the directories that it made, and writes the same.
-/
namespace CustomProps.Command

/-! ### Directories once more -/

section Directories

variable {s s' : Session} {p : Path}

/-- What making a directory leads on to: the directory is there, or it was refused for a reason. -/
theorem run_makeDirectory_bind {α : Type} (k : Except OsError Unit → StateM Session α) :
    ((Host.makeDirectory p >>= k : StateM Session α).run s : α × Session) =
      match s.files.makeDirectory p with
      | .ok files => ((k (.ok ())).run { s with files := files } : α × Session)
      | .error e => ((k (.error e)).run s : α × Session) := by
  have hrun : ((Host.makeDirectory p >>= k : StateM Session α).run s : α × Session) =
      ((k ((Session.change fun t => t.makeDirectory p).run s).1).run
        ((Session.change fun t => t.makeDirectory p).run s).2 : α × Session) := rfl
  rw [hrun]
  cases hmade : s.files.makeDirectory p with
  | ok files => rw [Session.run_change_of_ok hmade]
  | error e => rw [Session.run_change_of_error hmade]

theorem run_isDirectory_bind {α : Type} (k : Bool → StateM Session α) :
    ((Host.isDirectory p >>= k : StateM Session α).run s : α × Session) =
      ((k (s.files.isDirectory p)).run s : α × Session) := rfl

theorem isDirectory_of_found {e : OsError} (h : ((do
      if ← Host.isDirectory p then return .ok () else return .error e : StateM Session _).run s :
        Except OsError Unit × Session) = (.ok (), s')) : s'.files.isDirectory p = true := by
  rw [run_isDirectory_bind] at h
  cases hd : s.files.isDirectory p with
  | true =>
    rw [hd] at h
    cases h
    exact hd
  | false =>
    rw [hd] at h
    cases h

theorem isDirectory_of_makeOrFind
    (h : ((makeOrFind p : StateM Session _).run s : Except OsError Unit × Session) = (.ok (), s')) :
    s'.files.isDirectory p = true := by
  rw [makeOrFind, run_makeDirectory_bind] at h
  cases hmade : s.files.makeDirectory p with
  | ok files =>
    rw [hmade] at h
    cases h
    exact FileTree.isDirectory_of_makeDirectory hmade
  | error e =>
    rw [hmade] at h
    exact isDirectory_of_found h

theorem isDirectory_of_makeDirectories
    (h : ((makeDirectories p : StateM Session _).run s : Except OsError Unit × Session) =
      (.ok (), s')) : p.isEmpty = true ∨ s'.files.isDirectory p = true := by
  rw [makeDirectories] at h
  split at h
  · exact Or.inl ‹_›
  · right
    rw [run_makeDirectory_bind] at h
    cases hmade : s.files.makeDirectory p with
    | ok files =>
      rw [hmade] at h
      cases h
      exact FileTree.isDirectory_of_makeDirectory hmade
    | error e =>
      rw [hmade] at h
      dsimp only at h
      split at h
      · exact isDirectory_of_found h
      · split at h
        · cases h
        · rename_i parent _
          rw [StateT.run_bind] at h
          obtain ⟨result, s₁, habove⟩ : ∃ result s₁, ((makeDirectories parent :
            StateM Session _).run s : Except OsError Unit × Session) = (result, s₁) := ⟨_, _, rfl⟩
          rw [habove] at h
          cases result with
          | error e => cases h
          | ok _ => exact isDirectory_of_makeOrFind h

/-- Where the directory is, nothing is made. -/
theorem run_makeDirectories_of_isDirectory (h : p.isEmpty = true ∨ s.files.isDirectory p = true) :
    ((makeDirectories p : StateM Session _).run s : Except OsError Unit × Session) = (.ok (), s) := by
  rw [makeDirectories]
  split
  · rfl
  · rename_i hempty
    have hd := h.resolve_left hempty
    rw [run_makeDirectory_bind, FileTree.makeDirectory_of_isDirectory hd]
    dsimp only
    rw [if_pos (by decide), run_isDirectory_bind, hd]
    rfl

end Directories

/-! ### Actions -/

/-- Wherever the action is carried out, it writes to loose places only. Where it ended well, and in
whatever goes on from there, it ends in the same way once more, having written the same and added
nothing. -/
def Repeatable {α : Type} (loose : Place → Prop) (act : Action (StateM Session) α) : Prop :=
  ∀ s r s', Ends act s r s' → ∃ ws, FileTree.WrittenWithin loose s.files ws s'.files ∧
    ∀ a, r = .ok a → ∀ u : Session, FileTree.Continues loose s'.files u.files →
      ∃ u', Ends act u (.ok a) u' ∧ u.files.Rewrites ws u'.files

namespace Repeatable

variable {α β : Type} {loose : Place → Prop}

theorem pure (a : α) : Repeatable loose (pure a : Action (StateM Session) α) := by
  intro s r s' h
  obtain ⟨rfl, rfl⟩ := Ends.of_pure h
  refine ⟨[], .nothing s'.files, fun b hb u _ => ⟨u, ?_, .nothing u.files⟩⟩
  cases hb
  rfl

theorem throw (f : Failure) : Repeatable loose (throw f : Action (StateM Session) α) := by
  intro s r s' h
  obtain ⟨rfl, rfl⟩ := Ends.of_throw h
  exact ⟨[], .nothing s'.files, fun a ha => by cases ha⟩

theorem bind {x : Action (StateM Session) α} {k : α → Action (StateM Session) β}
    (hx : Repeatable loose x) (hk : ∀ a, Repeatable loose (k a)) : Repeatable loose (x >>= k) := by
  intro s r s' h
  rcases Ends.of_bind h with ⟨a, s₁, hfirst, hrest⟩ | ⟨f, hfirst, rfl⟩
  · obtain ⟨ws, hwithin, hagain⟩ := hx s _ s₁ hfirst
    obtain ⟨ws', hwithin', hagain'⟩ := hk a s₁ r s' hrest
    refine ⟨ws ++ ws', hwithin.append hwithin', fun b hb u hu => ?_⟩
    -- What goes on from the end goes on from the middle as well, also with the first part repeated.
    obtain ⟨u₁, hu₁, hrewrites⟩ := hagain a rfl u (hwithin'.continues.trans hu)
    have hcontinues := hu.trans (hwithin.again hrewrites.written).continues
    obtain ⟨u₂, hu₂, hrewrites'⟩ := hagain' b hb u₁ hcontinues
    exact ⟨u₂, hu₁.bind hu₂, hrewrites.append hrewrites'⟩
  · obtain ⟨ws, hwithin, -⟩ := hx s _ s' hfirst
    exact ⟨ws, hwithin, fun b hb => by cases hb⟩

theorem of_report {x : Action (StateM Session) Unit}
    (hx : ∀ s r s', Ends x s r s' → r = .ok () ∧ s'.files = s.files) : Repeatable loose x := by
  intro s r s' h
  obtain ⟨rfl, hsame⟩ := hx s r s' h
  rw [hsame]
  refine ⟨[], .nothing s.files, fun a ha u _ => ?_⟩
  obtain ⟨r', u', hends⟩ : ∃ r' u', Ends x u r' u' := ⟨_, _, rfl⟩
  obtain ⟨rfl, hfiles⟩ := hx u r' u' hends
  refine ⟨u', hends, ?_⟩
  rw [hfiles]
  exact .nothing u.files

theorem readText {failure : ReadError → Failure} {p : Path}
    (hp : ∀ (t : FileTree) place, t.locate p = .ok place → ¬loose place) :
    Repeatable loose (readText failure p : Action (StateM Session) String) := by
  intro s r s' h
  obtain ⟨rfl, rfl⟩ := Ends.eq_of_readText h
  refine ⟨[], .nothing s'.files, fun source hsource u hu => ⟨u, ?_, .nothing u.files⟩⟩
  -- What gave a text is a file, and it is read from the same place once more.
  have hread : u.files.read p = s'.files.read p := by
    cases hcontent : s'.files.read p with
    | ok content => exact hu.read (hp s'.files) hcontent
    | error e =>
      rw [hcontent] at hsource
      cases hsource
  rw [← hread] at hsource
  rw [← hsource]
  rfl

theorem write {p : Path} (content : String)
    (hp : ∀ (t : FileTree) place, t.locate p = .ok place → loose place) :
    Repeatable loose (write p content : Action (StateM Session) Unit) := by
  intro s r s' h
  rcases Ends.write_cases h with ⟨hwrite, rfl⟩ | ⟨e, -, rfl, rfl⟩
  · refine ⟨[(p, content)], ⟨.file hwrite (.nothing _), ?_⟩, fun a ha u hu => ?_⟩
    · intro w hw
      obtain rfl := List.mem_singleton.mp hw
      exact hp
    · obtain ⟨files, hfiles, hrewrites⟩ := FileTree.exists_write_of_continues hwrite hu
      refine ⟨{ u with files := files }, ?_, hrewrites⟩
      show (((Session.change fun t => t.write p content.toUTF8).run u).1.mapError
        Failure.refused, ((Session.change fun t => t.write p content.toUTF8).run u).2) = _
      rw [Session.run_change_of_ok hfiles]
      rfl
  · exact ⟨[], .nothing s'.files, fun a ha => by cases ha⟩

theorem makeParent (p : Path) :
    Repeatable loose (makeParent p : Action (StateM Session) Unit) := by
  intro s r s' h
  have hwithin : FileTree.WrittenWithin loose s.files [] s'.files :=
    ⟨Ends.written_of_makeParent h, by simp⟩
  refine ⟨[], hwithin, fun a ha u hu => ⟨u, ?_, .nothing u.files⟩⟩
  rcases Ends.makeParent_cases h with ⟨hnone, -, -⟩ | ⟨parent, result, hparent, rfl, hrun⟩
  · rw [Command.makeParent, hnone]
    rfl
  · cases result with
    | error e => cases ha
    | ok _ =>
      have hthere : parent.isEmpty = true ∨ u.files.isDirectory parent = true :=
        (isDirectory_of_makeDirectories hrun).imp_right hu.isDirectory
      rw [Command.makeParent, hparent]
      show (((makeDirectories parent : StateM Session _).run u :
        Except OsError Unit × Session).1.mapError Failure.refused,
        ((makeDirectories parent : StateM Session _).run u : Except OsError Unit × Session).2) = _
      rw [run_makeDirectories_of_isDirectory hthere]
      rfl

theorem foldlM {f : β → α → Action (StateM Session) β} {l : List α}
    (hf : ∀ b, ∀ a ∈ l, Repeatable loose (f b a)) (b : β) : Repeatable loose (l.foldlM f b) := by
  induction l generalizing b with
  | nil => exact pure b
  | cons a l ih =>
    rw [List.foldlM_cons]
    refine bind (hf b a List.mem_cons_self) fun b' => ?_
    exact ih (fun b a ha => hf b a (List.mem_cons_of_mem _ ha)) b'

/-! ### Renaming -/

theorem print (line : Line) : Repeatable loose (print line : Action (StateM Session) Unit) :=
  of_report fun _ _ _ => Ends.of_print

theorem log (level : Log.Level) (events : List Log.Event) :
    Repeatable loose (log level events : Action (StateM Session) Unit) :=
  of_report fun _ _ _ => Ends.of_log

theorem buildOptions (file : Config) (a : RenameArguments) :
    Repeatable loose (buildOptions file a : Action (StateM Session) Options) := by
  unfold Command.buildOptions
  cases (a.config file).options with
  | error e => exact throw _
  | ok o => exact pure o

section Rename

variable {level : Log.Level} {input output : Path}
  (hinput : ∀ (t : FileTree) place, t.locate input = .ok place → ¬loose place)
  (houtput : ∀ (t : FileTree) place, t.locate output = .ok place → loose place)

include hinput houtput

theorem renameStylesheet {o : Options} {inbox : Inbox} : Repeatable loose
    (renameStylesheet level o inbox input output : Action (StateM Session) (Stats × Inbox)) := by
  unfold Command.renameStylesheet
  apply bind (log _ _)
  intro _
  apply bind (readText hinput)
  intro source
  cases Stylesheet.parse? source with
  | none => exact throw _
  | some sheet =>
    apply bind (log _ _)
    intro _
    apply bind (write _ houtput)
    intro _
    exact pure _

theorem renameFile {file : Config} {a : RenameArguments} {map : Option Path}
    (hmap : ∀ p ∈ map, ∀ (t : FileTree) place, t.locate p = .ok place → loose place) :
    Repeatable loose (renameFile level file a input output map : Action (StateM Session) Stats) := by
  unfold Command.renameFile
  apply bind (print _)
  intro _
  apply bind (buildOptions file a)
  intro o
  apply bind (renameStylesheet hinput houtput)
  rintro ⟨stats, inbox⟩
  dsimp only
  cases inbox.next? with
  | none => exact throw _
  | some delivered =>
    apply bind (print _)
    intro _
    cases map with
    | none => exact pure _
    | some p =>
      apply bind (makeParent p)
      intro _
      apply bind (write _ (hmap p rfl))
      intro _
      apply bind (print _)
      intro _
      exact pure _

end Rename

end Repeatable

end CustomProps.Command
