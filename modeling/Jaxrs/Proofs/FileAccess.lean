import Jaxrs.FileAccess
import Jaxrs.Proofs.Except

/-!
Programs on a tree of files. `runOn` is the outcome of a program and the tree that it leaves; a
program that only reads (`ReadsOnly`) leaves the tree that it finds, and programs put together from
such programs do so too. What such a program comes to is then a computation that may fail and
nothing more (`outcome_bind`, `outcome_mapM`). Of a program that is run for one element after the
other, a failure is that of one element after the success of those before it
(`exists_of_runOn_mapM_eq_error`).
-/

set_option autoImplicit false

namespace Jaxrs

section Runs

variable {ε α β : Type} {t : FileTree}

/-- The outcome of a program on a tree, and the tree that it leaves. -/
def runOn (t : FileTree) (x : ExceptT ε (StateM FileTree) α) : Except ε α × FileTree :=
  StateT.run (ExceptT.run x) t

def outcome (t : FileTree) (x : ExceptT ε (StateM FileTree) α) : Except ε α :=
  (runOn t x).1

theorem runOn_bind_of_ok {x : ExceptT ε (StateM FileTree) α}
    {f : α → ExceptT ε (StateM FileTree) β} {a : α} {t' : FileTree} (h : runOn t x = (.ok a, t')) :
    runOn t (x >>= f) = runOn t' (f a) := by
  unfold runOn at *
  rw [ExceptT.run_bind, StateT.run_bind, h]
  rfl

theorem runOn_bind_of_error {x : ExceptT ε (StateM FileTree) α}
    {f : α → ExceptT ε (StateM FileTree) β} {e : ε} {t' : FileTree}
    (h : runOn t x = (.error e, t')) : runOn t (x >>= f) = (.error e, t') := by
  unfold runOn at *
  rw [ExceptT.run_bind, StateT.run_bind, h]
  rfl

theorem runOn_bind_eq_ok_iff {x : ExceptT ε (StateM FileTree) α}
    {f : α → ExceptT ε (StateM FileTree) β} {b : β} {t'' : FileTree} :
    runOn t (x >>= f) = (.ok b, t'') ↔
      ∃ a t', runOn t x = (.ok a, t') ∧ runOn t' (f a) = (.ok b, t'') := by
  cases hx : runOn t x with
  | mk result t' =>
    cases result with
    | error e => simp [runOn_bind_of_error hx]
    | ok a => simp [runOn_bind_of_ok hx]

theorem runOn_bind_eq_error_iff {x : ExceptT ε (StateM FileTree) α}
    {f : α → ExceptT ε (StateM FileTree) β} {e : ε} {t'' : FileTree} :
    runOn t (x >>= f) = (.error e, t'') ↔ runOn t x = (.error e, t'') ∨
      ∃ a t', runOn t x = (.ok a, t') ∧ runOn t' (f a) = (.error e, t'') := by
  cases hx : runOn t x with
  | mk result t' =>
    cases result with
    | error e' => simp [runOn_bind_of_error hx]
    | ok a => simp [runOn_bind_of_ok hx]

/-- A program that is run for one element after the other fails at the first that it fails for, with
the tree that it has made of the one the elements before have left. -/
theorem exists_of_runOn_mapM_eq_error {f : α → ExceptT ε (StateM FileTree) β} {l : List α} {e : ε}
    {t' : FileTree} (h : runOn t (l.mapM f) = (.error e, t')) :
    ∃ before a after bs t₁, l = before ++ a :: after ∧
      runOn t (before.mapM f) = (.ok bs, t₁) ∧ runOn t₁ (f a) = (.error e, t') := by
  induction l generalizing t with
  | nil => cases congrArg Prod.fst h
  | cons a rest ih =>
    rw [List.mapM_cons] at h
    rcases runOn_bind_eq_error_iff.mp h with ha | ⟨b, t₁, ha, h⟩
    · exact ⟨[], a, rest, [], t, rfl, rfl, ha⟩
    · rcases runOn_bind_eq_error_iff.mp h with hrest | ⟨_, _, _, hend⟩
      · obtain ⟨before, x, after, bs, t₂, rfl, hbefore, hx⟩ := ih hrest
        refine ⟨a :: before, x, after, b :: bs, t₂, rfl, ?_, hx⟩
        rw [List.mapM_cons, runOn_bind_of_ok ha, runOn_bind_of_ok hbefore]
        rfl
      · cases congrArg Prod.fst hend

/-- The program leaves every tree as it is. -/
def ReadsOnly (x : ExceptT ε (StateM FileTree) α) : Prop :=
  ∀ t, (runOn t x).2 = t

namespace ReadsOnly

variable {x : ExceptT ε (StateM FileTree) α} {f : α → ExceptT ε (StateM FileTree) β}

theorem runOn_eq (hx : ReadsOnly x) (t : FileTree) : runOn t x = (outcome t x, t) :=
  Prod.ext rfl (hx t)

theorem pure (a : α) : ReadsOnly (Pure.pure a : ExceptT ε (StateM FileTree) α) :=
  fun _ ↦ rfl

theorem throw (e : ε) : ReadsOnly (MonadExcept.throw e : ExceptT ε (StateM FileTree) α) :=
  fun _ ↦ rfl

theorem bind (hx : ReadsOnly x) (hf : ∀ a, ReadsOnly (f a)) : ReadsOnly (x >>= f) := by
  intro t
  have hrun := hx.runOn_eq t
  cases houtcome : outcome t x with
  | error e =>
    rw [houtcome] at hrun
    rw [runOn_bind_of_error hrun]
  | ok a =>
    rw [houtcome] at hrun
    rw [runOn_bind_of_ok hrun]
    exact hf a t

theorem outcome_bind (hx : ReadsOnly x) (t : FileTree) :
    outcome t (x >>= f) = outcome t x >>= fun a ↦ outcome t (f a) := by
  have hrun := hx.runOn_eq t
  cases houtcome : outcome t x with
  | error e =>
    rw [houtcome] at hrun
    rw [outcome, runOn_bind_of_error hrun]
    rfl
  | ok a =>
    rw [houtcome] at hrun
    rw [outcome, runOn_bind_of_ok hrun]
    rfl

theorem mapM (hf : ∀ a, ReadsOnly (f a)) (l : List α) : ReadsOnly (l.mapM f) := by
  induction l with
  | nil => exact ReadsOnly.pure []
  | cons a rest ih =>
    rw [List.mapM_cons]
    exact (hf a).bind fun _ ↦ ih.bind fun _ ↦ ReadsOnly.pure _

end ReadsOnly

/-- Looking at a tree leaves it as it is. -/
theorem readsOnly_lift (look : FileTree → α) :
    ReadsOnly (liftM (do return look (← get) : StateM FileTree α) :
      ExceptT ε (StateM FileTree) α) :=
  fun _ ↦ rfl

/-- A look at the tree, and what is made of it. -/
theorem outcome_look_bind (look : FileTree → α) (f : α → ExceptT ε (StateM FileTree) β)
    (t : FileTree) :
    outcome t ((liftM (do return look (← get) : StateM FileTree α) :
      ExceptT ε (StateM FileTree) α) >>= f) = outcome t (f (look t)) :=
  rfl

end Runs

end Jaxrs
