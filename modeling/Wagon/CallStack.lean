import Wagon.Dispatch

/-! # The call stack of `execCode`

In Go a call re-enters `execCode` on the host stack; the model keeps the suspended callers
in `Machine.frames`, innermost first. A body never reads or writes the callers suspended
below it: run with more callers below, it makes the same passes and ends the same way, until
it returns into them. When a callee's own run reaches the end of its body, the caller
resumes in the context it had once the arguments were popped, with the callee's result
pushed. -/

namespace Wagon

def Machine.below (m : Machine) (fs : List Frame) : Machine :=
  { m with frames := m.frames ++ fs }

@[simp] theorem Machine.below_vm (m : Machine) (fs : List Frame) : (m.below fs).vm = m.vm := rfl
@[simp] theorem Machine.below_returns (m : Machine) (fs : List Frame) :
    (m.below fs).returns = m.returns := rfl
@[simp] theorem Machine.below_frames (m : Machine) (fs : List Frame) :
    (m.below fs).frames = m.frames ++ fs := rfl

/-- An outcome with the callers `fs` below each machine it holds. A trap and the end of
the entry body hold no machine. -/
def Outcome.below (fs : List Frame) : Outcome → Outcome
  | .running m => .running (m.below fs)
  | .host i m => .host i (m.below fs)
  | o => o

/-- Whether the body at the bottom of `m`'s call stack returns a value: the flag saved with
the outermost caller, or `m`'s own when nothing is suspended. -/
def Machine.entryReturns (m : Machine) : Bool :=
  (m.frames.map Frame.returns).getLastD m.returns

section Below

variable {decode : Byte → Instr} {F : FloatOps} {m m' : Machine} {fs : List Frame}
  {vm : VM} {res : Word}

theorem finish_eq_finished (h : finish m = .finished vm res) :
    m.frames = [] ∧ m.vm = vm ∧ execResult m = .ok res := by
  unfold finish at h
  split at h
  · cases h
  · cases h; exact ⟨by assumption, rfl, by assumption⟩
  · dsimp only at h
    split at h
    · split at h <;> cases h
    · cases h

theorem invoke_ne_finished (idx : Nat) : invoke idx m ≠ .finished vm res := by
  unfold invoke
  split
  · nofun
  · nofun
  · split <;> nofun

theorem finish_below (h : ∀ vm res, finish m ≠ .finished vm res) :
    finish (m.below fs) = (finish m).below fs := by
  unfold finish
  rw [show execResult (m.below fs) = execResult m from rfl]
  simp only [Machine.below_vm, Machine.below_returns, Machine.below_frames]
  cases hr : execResult m with
  | error e => rfl
  | ok res =>
    cases hf : m.frames with
    | nil => exact absurd (by unfold finish; rw [hr, hf]) (h m.vm res)
    | cons fr frs =>
      simp only [List.cons_append]
      cases m.returns
      · rfl
      · cases pushUint64 res { m.vm with ctx := fr.caller } <;> rfl

theorem invoke_below (idx : Nat) : invoke idx (m.below fs) = (invoke idx m).below fs := by
  unfold invoke
  simp only [Machine.below_vm]
  cases m.vm.funcs[idx]? with
  | none => rfl
  | some f =>
    cases f with
    | host => rfl
    | compiled f => dsimp only; cases popArgs f.args m.vm <;> rfl

theorem step_below (h : ∀ vm res, step decode F m ≠ .finished vm res) :
    step decode F (m.below fs) = (step decode F m).below fs := by
  unfold step at h ⊢
  simp only [Machine.below_vm, Machine.below_returns, Machine.below_frames]
  by_cases hg : m.vm.ctx.pc < m.vm.ctx.code.length ∧ m.vm.abort = false
  · simp only [if_pos hg] at h ⊢
    cases hb : loopBody decode F m.vm with
    | ok s vm =>
      rw [hb] at h
      cases s with
      | next => rfl
      | exit => exact finish_below h
      | invoke idx => exact invoke_below (m := ⟨vm, m.returns, m.frames⟩) idx
    | error e vm => rfl
  · simp only [if_neg hg] at h ⊢
    exact finish_below h

theorem step_below_of_finished (fs : List Frame) (h : step decode F m = .finished vm res) :
    m.frames = [] ∧ execResult ⟨vm, m.returns, fs⟩ = .ok res ∧
      step decode F (m.below fs) = finish ⟨vm, m.returns, fs⟩ := by
  unfold step at h ⊢
  simp only [Machine.below_vm, Machine.below_returns, Machine.below_frames]
  by_cases hg : m.vm.ctx.pc < m.vm.ctx.code.length ∧ m.vm.abort = false
  · simp only [if_pos hg] at h ⊢
    cases hb : loopBody decode F m.vm with
    | ok s vm' =>
      rw [hb] at h
      cases s with
      | next => cases h
      | exit =>
        obtain ⟨hf, rfl, hr⟩ := finish_eq_finished h
        dsimp only at hf
        exact ⟨hf, hr, by simp only [hf, List.nil_append]⟩
      | invoke idx => exact absurd h (invoke_ne_finished idx)
    | error e vm' => rw [hb] at h; cases h
  · simp only [if_neg hg] at h ⊢
    obtain ⟨hf, rfl, hr⟩ := finish_eq_finished h
    exact ⟨hf, hr, by simp only [Machine.below, hf, List.nil_append]⟩

theorem finish_running (h : finish m = .running m') :
    ∃ fr, m.frames = fr :: m'.frames ∧ m'.returns = fr.returns := by
  unfold finish at h
  split at h
  · cases h
  · cases h
  · rename_i fr frs _ hfr
    dsimp only at h
    split at h
    · split at h <;> cases h
      exact ⟨fr, hfr, rfl⟩
    · cases h
      exact ⟨fr, hfr, rfl⟩

theorem entryReturns_of_finish (h : finish m = .running m') :
    m'.entryReturns = m.entryReturns := by
  obtain ⟨fr, hf, hr⟩ := finish_running h
  simp only [Machine.entryReturns, hf, hr, List.map_cons, List.getLastD_cons]

theorem entryReturns_of_invoke {idx : Nat} (h : invoke idx m = .running m') :
    m'.entryReturns = m.entryReturns := by
  unfold invoke at h
  split at h
  · cases h
  · cases h
  · split at h <;> cases h
    simp only [Machine.entryReturns, Machine.enter, List.map_cons, List.getLastD_cons]

theorem step_entryReturns (h : step decode F m = .running m') :
    m'.entryReturns = m.entryReturns := by
  unfold step at h
  by_cases hg : m.vm.ctx.pc < m.vm.ctx.code.length ∧ m.vm.abort = false
  · rw [if_pos hg] at h
    cases hb : loopBody decode F m.vm with
    | ok s vm =>
      rw [hb] at h
      cases s with
      | next => cases h; rfl
      | exit => exact entryReturns_of_finish (m := ⟨vm, m.returns, m.frames⟩) h
      | invoke idx => exact entryReturns_of_invoke (m := ⟨vm, m.returns, m.frames⟩) h
    | error e vm => rw [hb] at h; cases h
  · rw [if_neg hg] at h
    exact entryReturns_of_finish h

theorem run_one (m : Machine) : run decode F 1 m = step decode F m := by
  simp only [run]
  cases step decode F m <;> rfl

theorem run_succ_eq (n : Nat) (m : Machine) :
    run decode F (n + 1) m =
      match run decode F n m with
      | .running m' => step decode F m'
      | o => o := by
  induction n generalizing m with
  | zero => exact run_one m
  | succ n ih =>
    rw [run]
    cases hs : step decode F m with
    | running m₁ => simp only [run, hs]; exact ih m₁
    | _ => simp only [run, hs]

theorem run_entryReturns {n : Nat} (h : run decode F n m = .running m') :
    m'.entryReturns = m.entryReturns := by
  induction n generalizing m with
  | zero => cases h; rfl
  | succ n ih =>
    simp only [run] at h
    cases hs : step decode F m with
    | running m₁ => rw [hs] at h; exact (ih h).trans (step_entryReturns hs)
    | _ => rw [hs] at h; cases h

theorem run_below_of_not_finished {n : Nat} (h : ∀ vm res, run decode F n m ≠ .finished vm res) :
    run decode F n (m.below fs) = (run decode F n m).below fs := by
  induction n generalizing m with
  | zero => rfl
  | succ n ih =>
    have hs : ∀ vm res, step decode F m ≠ .finished vm res := fun vm res hs =>
      h vm res (by simp only [run, hs])
    simp only [run, step_below hs]
    cases hm : step decode F m with
    | running m₁ => exact ih (fun vm res e => h vm res (by simp only [run, hm, e]))
    | finished vm res => exact absurd hm (hs vm res)
    | _ => rfl

theorem run_below_of_finished (fs : List Frame) {n : Nat}
    (h : run decode F n m = .finished vm res) :
    ∃ k m', k < n ∧ run decode F k m = .running m' ∧ m'.frames = [] ∧
      execResult ⟨vm, m'.returns, []⟩ = .ok res ∧
      run decode F (k + 1) (m.below fs) = finish ⟨vm, m'.returns, fs⟩ := by
  induction n generalizing m with
  | zero => cases h
  | succ n ih =>
    simp only [run] at h
    cases hs : step decode F m with
    | running m₁ =>
      rw [hs] at h
      obtain ⟨k, m', hk, hr, hf, hx, hb⟩ := ih h
      have hs' : ∀ vm res, step decode F m ≠ .finished vm res := by
        intro _ _ e; rw [hs] at e; cases e
      refine ⟨k + 1, m', by omega, by simp only [run, hs, hr], hf, hx, ?_⟩
      rw [run, step_below hs', hs]
      exact hb
    | finished vm' res' =>
      rw [hs] at h
      cases h
      obtain ⟨hf, hx, -⟩ := step_below_of_finished [] hs
      obtain ⟨-, -, hb⟩ := step_below_of_finished fs hs
      exact ⟨0, m, by omega, rfl, hf, hx, by rw [run_one, hb]⟩
    | _ => rw [hs] at h; cases h

/-- A body's run with the callers `fs` suspended below it is the same run: it makes the same
passes, traps with the same panic in the same VM and calls the same host function, and never
reads or changes `fs`, until the body at the bottom of the stack returns. That return goes
into `fs`: the pass that ended the run alone returns into the top of `fs` instead. -/
theorem run_below (decode : Byte → Instr) (F : FloatOps) (m : Machine) (fs : List Frame)
    (n : Nat) :
    ((∀ vm res, run decode F n m ≠ .finished vm res) →
      run decode F n (m.below fs) = (run decode F n m).below fs) ∧
    ∀ vm res, run decode F n m = .finished vm res →
      ∃ k m', k < n ∧ run decode F k m = .running m' ∧ m'.frames = [] ∧
        execResult ⟨vm, m'.returns, []⟩ = .ok res ∧
        run decode F (k + 1) (m.below fs) = finish ⟨vm, m'.returns, fs⟩ :=
  ⟨run_below_of_not_finished, fun _ _ => run_below_of_finished fs⟩

/-- A body that returns `7` at once, first as the entry body and then with a caller below it:
the pass that ends it returns into the caller. -/
theorem run_below_at_return :
    let m : Machine := ⟨VM.running [7] [1] [], true, []⟩
    let fs : List Frame := [⟨(VM.running [] [] []).ctx, false⟩]
    ∃ vm, run (fun _ => .return) default 1 m = .finished vm 7 ∧
      run (fun _ => .return) default 1 (m.below fs) = finish ⟨vm, true, fs⟩ := by
  intro m fs
  obtain ⟨vm, h⟩ : ∃ vm, run (fun _ => .return) default 1 m = .finished vm 7 := ⟨_, rfl⟩
  obtain ⟨k, m', hk, hr, -, -, hb⟩ := (run_below (fun _ => .return) default m fs 1).2 vm 7 h
  obtain rfl : k = 0 := by omega
  cases hr
  exact ⟨vm, h, hb⟩

end Below

section Call

variable {decode : Byte → Instr} {F : FloatOps}

theorem OperandStack.drop_zero (s : OperandStack) : s.drop 0 = s :=
  OperandStack.ext' (List.drop_zero _) rfl

theorem OperandStack.drop_drop (s : OperandStack) (a b : Nat) :
    (s.drop a).drop b = s.drop (a + b) :=
  OperandStack.ext' (List.drop_drop _ _ _) rfl

theorem popArgs_reverse {vm : VM} {rargs rest : List Word}
    (hs : vm.ctx.stack.items = rargs ++ rest) :
    popArgs rargs.length vm =
      .ok rargs.reverse { vm with ctx.stack := vm.ctx.stack.drop rargs.length } := by
  induction rargs generalizing vm with
  | nil =>
    show EStateM.Result.ok [] vm = _
    rw [List.length_nil, OperandStack.drop_zero]
    rfl
  | cons v rs ih =>
    have h := @ih vm.popped (by simp only [VM.popped_items, hs, List.cons_append,
      List.drop_succ_cons, List.drop_zero])
    rw [List.length_cons, popArgs, bind_ok (popUint64_ok hs), bind_ok h, pure_apply,
      List.reverse_cons]
    simp only [VM.popped, OperandStack.drop_drop, Nat.add_comm 1]

end Call

end Wagon
