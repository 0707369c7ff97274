import CustomProps.Command.Session
import CustomProps.Proofs.Files.Written
/-!
# How actions end on a tree of files

An action that is carried out in a session ends with a result or a failure and leaves a session
behind. Of the tree, reading and reporting change nothing; only making directories and writing files
do, and what they do is said by the tree.
-/
namespace CustomProps.Command

variable {α β : Type} {s s' : Session}

/-- Carried out in the session `s`, the action ends as `r` and leaves `s'`. -/
def Ends (act : Action (StateM Session) α) (s : Session) (r : Except Failure α) (s' : Session) :
    Prop :=
  (act.run.run s : Except Failure α × Session) = (r, s')

theorem Session.run_change_of_ok {f : FileTree → Except OsError FileTree} {files : FileTree}
    (h : f s.files = .ok files) :
    (Session.change f).run s = (.ok (), { s with files := files }) := by
  rw [StateT.run, Session.change, h]

theorem Session.run_change_of_error {f : FileTree → Except OsError FileTree} {e : OsError}
    (h : f s.files = .error e) : (Session.change f).run s = (.error e, s) := by
  rw [StateT.run, Session.change, h]

namespace Ends

/-! ### Putting actions together -/

theorem of_pure {a : α} {r : Except Failure α} (h : Ends (pure a) s r s') :
    r = .ok a ∧ s' = s := by
  cases h
  exact ⟨rfl, rfl⟩

theorem of_throw {f : Failure} {r : Except Failure α} (h : Ends (throw f) s r s') :
    r = .error f ∧ s' = s := by
  cases h
  exact ⟨rfl, rfl⟩

theorem of_bind {x : Action (StateM Session) α} {k : α → Action (StateM Session) β}
    {r : Except Failure β} (h : Ends (x >>= k) s r s') :
    (∃ a s₁, Ends x s (.ok a) s₁ ∧ Ends (k a) s₁ r s') ∨
      ∃ f, Ends x s (.error f) s' ∧ r = .error f := by
  obtain ⟨result, s₁, hx⟩ : ∃ result s₁, Ends x s result s₁ := ⟨_, _, rfl⟩
  have hrun : ((ExceptT.bindCont k result : StateM Session (Except Failure β)).run s₁ :
      Except Failure β × Session) = (r, s') := by
    have hstep : ((ExceptT.bindCont k (x.run.run s : Except Failure α × Session).1 :
        StateM Session (Except Failure β)).run (x.run.run s : Except Failure α × Session).2 :
        Except Failure β × Session) = (r, s') := h
    rw [show (x.run.run s : Except Failure α × Session) = (result, s₁) from hx] at hstep
    exact hstep
  -- What comes next depends on the result of the first action only.
  cases result with
  | ok a => exact Or.inl ⟨a, s₁, hx, hrun⟩
  | error f =>
    cases hrun
    exact Or.inr ⟨f, hx, rfl⟩

theorem bind {x : Action (StateM Session) α} {k : α → Action (StateM Session) β} {s₁ : Session}
    {a : α} {r : Except Failure β} (hx : Ends x s (.ok a) s₁) (hk : Ends (k a) s₁ r s') :
    Ends (x >>= k) s r s' := by
  show ((ExceptT.bindCont k (x.run.run s : Except Failure α × Session).1 :
    StateM Session (Except Failure β)).run (x.run.run s : Except Failure α × Session).2 :
    Except Failure β × Session) = (r, s')
  rw [show (x.run.run s : Except Failure α × Session) = (.ok a, s₁) from hx]
  exact hk

/-! ### Reporting -/

theorem of_print {line : Line} {r : Except Failure Unit} (h : Ends (print line) s r s') :
    r = .ok () ∧ s'.files = s.files := by
  cases h
  exact ⟨rfl, rfl⟩

theorem of_forM {l : List β} {act : β → Action (StateM Session) Unit} {r : Except Failure Unit}
    (hact : ∀ b s r s', Ends (act b) s r s' → r = .ok () ∧ s'.files = s.files)
    (h : Ends (l.forM act) s r s') : r = .ok () ∧ s'.files = s.files := by
  induction l generalizing s with
  | nil =>
    obtain ⟨rfl, rfl⟩ := of_pure h
    exact ⟨rfl, rfl⟩
  | cons b l ih =>
    rcases of_bind h with ⟨_, s₁, hb, hrest⟩ | ⟨f, hb, rfl⟩
    · obtain ⟨hr, hfiles⟩ := ih hrest
      exact ⟨hr, hfiles.trans (hact _ _ _ _ hb).2⟩
    · cases (hact _ _ _ _ hb).1

theorem of_printAll {lines : List String} {r : Except Failure Unit}
    (h : Ends (printAll lines) s r s') : r = .ok () ∧ s'.files = s.files :=
  of_forM (fun _ _ _ _ h => of_print h) h

theorem of_log {level : Log.Level} {events : List Log.Event} {r : Except Failure Unit}
    (h : Ends (log level events) s r s') : r = .ok () ∧ s'.files = s.files := by
  refine of_forM (fun _ _ _ _ hb => ?_) h
  cases hb
  exact ⟨rfl, rfl⟩

/-- What only reports leads on, with the tree as it is. -/
theorem of_report {x : Action (StateM Session) Unit} {k : Unit → Action (StateM Session) β}
    {r : Except Failure β} (hx : ∀ r s', Ends x s r s' → r = .ok () ∧ s'.files = s.files)
    (h : Ends (x >>= k) s r s') : ∃ s₁, s₁.files = s.files ∧ Ends (k ()) s₁ r s' := by
  rcases of_bind h with ⟨_, s₁, hfirst, hrest⟩ | ⟨f, hfirst, -⟩
  · exact ⟨s₁, (hx _ _ hfirst).2, hrest⟩
  · cases (hx _ _ hfirst).1

/-! ### Files -/

theorem of_isDirectory {p : Path} {k : Bool → Action (StateM Session) β} {r : Except Failure β}
    (h : Ends (ExceptT.lift (Host.isDirectory p) >>= k) s r s') :
    Ends (k (s.files.isDirectory p)) s r s' := h

theorem of_filesBelow {p : Path} {k : List (List String) → Action (StateM Session) β}
    {r : Except Failure β} (h : Ends (ExceptT.lift (Host.filesBelow p) >>= k) s r s') :
    Ends (k (s.files.filesBelow p)) s r s' := h

theorem eq_of_readText {failure : ReadError → Failure} {p : Path} {r : Except Failure String}
    (h : Ends (readText failure p) s r s') :
    r = (ReadError.textOf (s.files.read p)).mapError failure ∧ s' = s := by
  cases h
  exact ⟨rfl, rfl⟩

theorem of_readText {failure : ReadError → Failure} {p : Path}
    {k : String → Action (StateM Session) β} {r : Except Failure β}
    (h : Ends (readText failure p >>= k) s r s') :
    (∃ source, ReadError.textOf (s.files.read p) = .ok source ∧ Ends (k source) s r s') ∨
      ∃ e, ReadError.textOf (s.files.read p) = .error e ∧ r = .error (failure e) ∧ s' = s := by
  rcases of_bind h with ⟨source, s₁, hfirst, hrest⟩ | ⟨f, hfirst, rfl⟩
  · obtain ⟨hsource, rfl⟩ := eq_of_readText hfirst
    cases htext : ReadError.textOf (s₁.files.read p) with
    | ok text =>
      rw [htext] at hsource
      cases hsource
      exact Or.inl ⟨_, rfl, hrest⟩
    | error e =>
      rw [htext] at hsource
      cases hsource
  · obtain ⟨hf, rfl⟩ := eq_of_readText hfirst
    cases htext : ReadError.textOf (s'.files.read p) with
    | ok text =>
      rw [htext] at hf
      cases hf
    | error e =>
      rw [htext] at hf
      cases hf
      exact Or.inr ⟨e, rfl, rfl, rfl⟩

theorem write_cases {p : Path} {content : String} {r : Except Failure Unit}
    (h : Ends (write p content) s r s') :
    (s.files.write p content.toUTF8 = .ok s'.files ∧ r = .ok ()) ∨
      ∃ e, s.files.write p content.toUTF8 = .error e ∧ r = .error (.refused e) ∧ s' = s := by
  have hrun : (((Session.change fun t => t.write p content.toUTF8).run s).1.mapError
      Failure.refused, ((Session.change fun t => t.write p content.toUTF8).run s).2) = (r, s') := h
  cases hw : s.files.write p content.toUTF8 with
  | ok files =>
    rw [Session.run_change_of_ok hw] at hrun
    cases hrun
    exact Or.inl ⟨rfl, rfl⟩
  | error e =>
    rw [Session.run_change_of_error hw] at hrun
    cases hrun
    exact Or.inr ⟨e, rfl, rfl, rfl⟩

theorem of_write {p : Path} {content : String} {k : Unit → Action (StateM Session) β}
    {r : Except Failure β} (h : Ends (write p content >>= k) s r s') :
    (∃ s₁, s.files.write p content.toUTF8 = .ok s₁.files ∧ Ends (k ()) s₁ r s') ∨
      ∃ e, s.files.write p content.toUTF8 = .error e ∧ r = .error (.refused e) ∧
        s'.files = s.files := by
  rcases of_bind h with ⟨_, s₁, hfirst, hrest⟩ | ⟨f, hfirst, rfl⟩
  · rcases write_cases hfirst with ⟨hw, -⟩ | ⟨e, -, he, -⟩
    · exact Or.inl ⟨s₁, hw, hrest⟩
    · cases he
  · rcases write_cases hfirst with ⟨-, hok⟩ | ⟨e, hw, he, rfl⟩
    · cases hok
    · cases he
      exact Or.inr ⟨e, hw, rfl, rfl⟩

end Ends

/-! ### Making directories -/

/-- Whatever session it is carried out in, the action does no more than make directories. -/
def Makes (act : StateM Session α) : Prop :=
  ∀ s : Session, s.files.Written [] (act.run s : α × Session).2.files

namespace Makes

theorem pure (a : α) : Makes (pure a) := fun s => .nothing s.files

theorem bind {x : StateM Session α} {k : α → StateM Session β} (hx : Makes x)
    (hk : ∀ a, Makes (k a)) : Makes (x >>= k) := by
  intro s
  exact (hx s).append (hk (x.run s : α × Session).1 (x.run s : α × Session).2)

theorem isDirectory (p : Path) : Makes (Host.isDirectory p) := fun s => .nothing s.files

theorem makeDirectory (p : Path) : Makes (Host.makeDirectory p) := by
  intro s
  show s.files.Written [] ((Session.change fun t => t.makeDirectory p).run s).2.files
  cases hmade : s.files.makeDirectory p with
  | ok files =>
    rw [Session.run_change_of_ok hmade]
    exact .directory hmade (.nothing files)
  | error e =>
    rw [Session.run_change_of_error hmade]
    exact .nothing s.files

theorem makeOrFind (p : Path) : Makes (makeOrFind p) := by
  refine bind (makeDirectory p) fun result => ?_
  cases result with
  | ok _ => exact pure _
  | error e =>
    refine bind (isDirectory p) fun there => ?_
    cases there with
    | true => exact pure _
    | false => exact pure _

theorem makeDirectories (p : Path) : Makes (makeDirectories p) := by
  -- The recursion goes up the path: a directory is tried again when its parent has been made.
  induction p using Command.makeDirectories.induct with
  | case1 p hempty =>
    rw [Command.makeDirectories, if_pos hempty]
    exact pure _
  | case2 p hempty ih =>
    rw [Command.makeDirectories, if_neg hempty]
    refine bind (makeDirectory p) fun result => ?_
    cases result with
    | ok _ => exact pure _
    | error e =>
      dsimp only
      split
      · refine bind (isDirectory p) fun there => ?_
        cases there with
        | true => exact pure _
        | false => exact pure _
      · split
        · exact pure _
        · rename_i parent hparent
          refine bind (ih parent hparent) fun result => ?_
          cases result with
          | ok _ => exact makeOrFind p
          | error e => exact pure _

end Makes

/-- The parent of a path is made, if the path has one. -/
theorem Ends.makeParent_cases {p : Path} {r : Except Failure Unit} (h : Ends (makeParent p) s r s') :
    (p.parent? = none ∧ r = .ok () ∧ s' = s) ∨
      ∃ parent result, p.parent? = some parent ∧ r = Except.mapError Failure.refused result ∧
        ((makeDirectories parent : StateM Session _).run s : Except OsError Unit × Session) =
          (result, s') := by
  unfold makeParent at h
  split at h
  · rename_i parent hparent
    obtain ⟨result, s₁, hrun⟩ : ∃ result s₁, ((makeDirectories parent : StateM Session _).run s :
      Except OsError Unit × Session) = (result, s₁) := ⟨_, _, rfl⟩
    have hends : (((makeDirectories parent : StateM Session _).run s :
        Except OsError Unit × Session).1.mapError Failure.refused,
        ((makeDirectories parent : StateM Session _).run s : Except OsError Unit × Session).2) =
          (r, s') := h
    rw [hrun] at hends
    cases hends
    exact Or.inr ⟨parent, result, hparent, rfl, hrun⟩
  · rename_i hnone
    obtain ⟨rfl, rfl⟩ := of_pure h
    exact Or.inl ⟨hnone, rfl, rfl⟩

theorem Ends.written_of_makeParent {p : Path} {r : Except Failure Unit}
    (h : Ends (makeParent p) s r s') : s.files.Written [] s'.files := by
  rcases makeParent_cases h with ⟨-, -, rfl⟩ | ⟨parent, result, -, -, hrun⟩
  · exact .nothing _
  · have hmade := Makes.makeDirectories parent s
    rwa [hrun] at hmade

theorem Ends.of_makeParent {p : Path} {k : Unit → Action (StateM Session) β}
    {r : Except Failure β} (h : Ends (makeParent p >>= k) s r s') :
    ∃ s₁, s.files.Written [] s₁.files ∧
      (Ends (k ()) s₁ r s' ∨ (∃ e, r = .error (.refused e)) ∧ s' = s₁) := by
  rcases of_bind h with ⟨_, s₁, hfirst, hrest⟩ | ⟨f, hfirst, rfl⟩
  · exact ⟨s₁, written_of_makeParent hfirst, Or.inl hrest⟩
  · refine ⟨s', written_of_makeParent hfirst, Or.inr ⟨?_, rfl⟩⟩
    rcases makeParent_cases hfirst with ⟨-, hok, -⟩ | ⟨parent, result, -, hresult, -⟩
    · cases hok
    · cases result with
      | ok _ => cases hresult
      | error e =>
        cases hresult
        exact ⟨e, rfl⟩

end CustomProps.Command
