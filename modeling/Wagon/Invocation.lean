import Wagon.Dispatch
import Wagon.Process

/-! # What `ExecCode` returns

`ExecCode` checks the index and the argument count, builds the entry body's context and
runs `execCode`. When the checks fail, or the first pass of the loop already leaves it, the
result is decided before any instruction runs: this module computes it. Two cases of it
are the index guard `int(fnIndex) > len(vm.funcs)`, and a VM whose abort flag is set, as
`Close` and `Terminate` set it. -/

namespace Wagon

section Runs

variable {decode : Byte → Instr} {F : FloatOps}

theorem Steps.eq_of_step {m : Machine} {o o' : Outcome} (hs : step decode F m = o)
    (ho : ∀ m', o ≠ .running m') (hh : ∀ i m', o ≠ .host i m') (h : Steps decode F m o') :
    o' = .running m ∨ o' = o := by
  cases h with
  | refl => exact .inl rfl
  | head h' _ => exact absurd (hs.symm.trans h') (ho _)
  | last h' => exact .inr (h'.symm.trans hs)
  | host h' _ _ | hostPanic h' _ => exact absurd (hs.symm.trans h') (hh _ _)

theorem step_of_abort (m : Machine) (h : m.vm.abort = true) : step decode F m = finish m := by
  simp [step, h]

theorem finish_of_empty {m : Machine} (hs : m.vm.ctx.stack.items = []) (hf : m.frames = []) :
    finish m = if m.returns then .trapped .indexOutOfRange m.vm else .finished m.vm 0 := by
  unfold finish execResult
  cases m.returns <;> simp [hs, hf]

end Runs

section ExecCode

variable {decode : Byte → Instr} {F : FloatOps} {vm vm' : VM} {fnIndex : Int} {args : List Word}
  {m : Machine} {r : ExecResult}

theorem execCodeStart_eq_ready {g : ModuleFunction} {f : CompiledFunction} (h0 : 0 ≤ fnIndex)
    (hl : fnIndex ≤ vm.funcs.length) (hg : getFunction vm.module fnIndex = some g)
    (hp : g.sig.paramTypes.length = args.length)
    (hf : vm.funcs[fnIndex.toNat]? = some (.compiled f)) (hn : args.length ≤ f.totalLocalVars) :
    execCodeStart fnIndex args vm = .ready ⟨{ vm with ctx :=
      { stack := ⟨[], max vm.ctx.stack.cap (f.maxDepth + 1), Nat.zero_le _⟩
        locals := args ++ List.replicate (f.totalLocalVars - args.length) 0, code := f.code,
        pc := 0, curFunc := fnIndex } }, f.returns, []⟩ := by
  simp only [execCodeStart, if_neg (not_lt.2 hl), hg, hp, ne_eq, not_true_eq_false, if_false,
    if_neg (not_lt.2 h0), hf, if_neg (not_lt.2 hn)]

theorem execCodeStart_ready_checks (h : execCodeStart fnIndex args vm = .ready m) :
    ∃ g f, 0 ≤ fnIndex ∧ fnIndex ≤ vm.funcs.length ∧ getFunction vm.module fnIndex = some g ∧
      g.sig.paramTypes.length = args.length ∧ vm.funcs[fnIndex.toNat]? = some (.compiled f) ∧
      args.length ≤ f.totalLocalVars := by
  unfold execCodeStart at h
  split at h
  · cases h
  split at h
  · cases h
  rename_i g hg
  split at h
  · cases h
  split at h
  · cases h
  · cases h
  · rename_i f hf
    split at h
    · cases h
    split at hf
    · cases hf
    · exact ⟨g, f, by omega, by omega, hg, by omega, hf, by omega⟩

theorem execCodeStart_ready (h : execCodeStart fnIndex args vm = .ready m) :
    ∃ c : Context, c.stack.items = [] ∧ m.vm = { vm with ctx := c } ∧ m.frames = [] := by
  obtain ⟨g, f, h0, hl, hg, hp, hf, hn⟩ := execCodeStart_ready_checks h
  cases h.symm.trans (execCodeStart_eq_ready h0 hl hg hp hf hn)
  exact ⟨_, rfl, rfl, rfl⟩

theorem execCode_of_refused {err : ExecError} (h : execCodeStart fnIndex args vm = .refused err) :
    ExecCode decode F vm fnIndex args r ↔ r = .returned none (some err) := by
  constructor
  · rintro ⟨_, hr⟩
    cases hr with
    | refused h' => cases h.symm.trans h'; rfl
    | panickedAtStart h' | trapped h' | finished h' => cases h.symm.trans h'
  · rintro rfl
    exact ⟨_, .refused h⟩

theorem execCode_of_panicked {e : Trap} (h : execCodeStart fnIndex args vm = .panicked e vm') :
    ExecCode decode F vm fnIndex args r ↔ r = .ofPanic vm' e := by
  constructor
  · rintro ⟨_, hr⟩
    cases hr with
    | panickedAtStart h' => cases h.symm.trans h'; rfl
    | refused h' | trapped h' | finished h' => cases h.symm.trans h'
  · rintro rfl
    exact ⟨_, .panickedAtStart h⟩

theorem execCode_of_trapped_pass {e : Trap} (hm : execCodeStart fnIndex args vm = .ready m)
    (hs : step decode F m = .trapped e vm') :
    ExecCode decode F vm fnIndex args r ↔ r = .ofPanic vm' e := by
  constructor
  · rintro ⟨_, hr⟩
    cases hr with
    | trapped h' hr | finished h' hr =>
      cases hm.symm.trans h'
      obtain h | h := Steps.eq_of_step hs (fun _ => nofun) (fun _ _ => nofun) hr <;> cases h <;> rfl
    | refused h' | panickedAtStart h' => cases hm.symm.trans h'
  · rintro rfl
    exact ⟨_, .trapped hm (.last hs)⟩

theorem execCode_of_finished_pass {res : Word} (hm : execCodeStart fnIndex args vm = .ready m)
    (hs : step decode F m = .finished vm' res) :
    ExecCode decode F vm fnIndex args r ↔ r = execCodeEnd fnIndex m.returns vm' res := by
  constructor
  · rintro ⟨_, hr⟩
    cases hr with
    | trapped h' hr | finished h' hr =>
      cases hm.symm.trans h'
      obtain h | h := Steps.eq_of_step hs (fun _ => nofun) (fun _ _ => nofun) hr <;> cases h <;> rfl
    | refused h' | panickedAtStart h' => cases hm.symm.trans h'
  · rintro rfl
    exact ⟨_, .finished hm (.last hs)⟩

/-- `ExecCode`'s checks before the loop: an index above `len(vm.funcs)` is refused; an index
the module has no function for dereferences the `nil` that `GetFunction` returns; a wrong
argument count is refused. -/
theorem execCode_entry_checks :
    ((vm.funcs.length : Int) < fnIndex →
      (ExecCode decode F vm fnIndex args r ↔
        r = .returned none (some (.invalidFunctionIndex fnIndex)))) ∧
    (fnIndex ≤ vm.funcs.length → getFunction vm.module fnIndex = none →
      (ExecCode decode F vm fnIndex args r ↔ r = .ofPanic vm .nilPointerDereference)) ∧
    (fnIndex ≤ vm.funcs.length → ∀ fn, getFunction vm.module fnIndex = some fn →
      fn.sig.paramTypes.length ≠ args.length →
      (ExecCode decode F vm fnIndex args r ↔ r = .returned none (some .invalidArgumentCount))) := by
  refine ⟨fun h => execCode_of_refused ?_, fun h hg => execCode_of_panicked ?_,
    fun h fn hg hn => execCode_of_refused ?_⟩
  · simp only [execCodeStart, if_pos h]
  · simp only [execCodeStart, if_neg (not_lt.2 h), hg]
  · simp only [execCodeStart, if_neg (not_lt.2 h), hg, if_pos hn]

/-- A VM of one function, called with index `1`, its `len(vm.funcs)`, or with `-1`: both pass
the guard and dereference the `nil` function, which without `RecoverPanic` is not recovered. -/
theorem execCode_index_past_guard (decode : Byte → Instr) (F : FloatOps) :
    let module : Module := { Module.empty with functionIndexSpace := [⟨⟨[], []⟩, false⟩] }
    let funcs : List Function := [.compiled ⟨[0], [], 1, 0, 0, false⟩]
    ∃ vm, newVM module funcs false false = .ok vm ∧ ∀ r,
      (ExecCode decode F vm 1 [] r ↔ r = .crashed .nilPointerDereference) ∧
      (ExecCode decode F vm (-1) [] r ↔ r = .crashed .nilPointerDereference) :=
  ⟨_, rfl, fun _ => ⟨by refine (execCode_entry_checks.2.1 ?_ ?_).trans Iff.rfl <;> decide,
    by refine (execCode_entry_checks.2.1 ?_ ?_).trans Iff.rfl <;> decide⟩⟩

/-- `ExecCode` on a VM whose abort flag is set runs no instruction of the body: the loop
leaves at its first test, and a body with a result then reads the top of its empty stack and
panics, while one without returns at once. -/
theorem execCode_of_abort (hv : vm.abort = true) (hm : execCodeStart fnIndex args vm = .ready m) :
    ExecCode decode F vm fnIndex args r ↔
      r = if m.returns then .ofPanic m.vm .indexOutOfRange else execCodeEnd fnIndex false m.vm 0 := by
  obtain ⟨c, hc, hv', hf⟩ := execCodeStart_ready hm
  have hs : step decode F m = finish m := step_of_abort m (by rw [hv']; exact hv)
  rw [finish_of_empty (by rw [hv']; exact hc) hf] at hs
  cases hr : m.returns <;> simp only [hr, if_true, Bool.false_eq_true, if_false] at hs ⊢
  · exact hr ▸ execCode_of_finished_pass hm hs
  · exact execCode_of_trapped_pass hm hs

/-- `Close`, then `ExecCode` of a function that returns an `i32`: whatever its body, the
post-loop read of the empty stack panics, and without `RecoverPanic` nothing recovers it. -/
theorem execCode_after_close_reads_empty_stack (decode : Byte → Instr) (F : FloatOps) :
    let module : Module := { Module.empty with functionIndexSpace := [⟨⟨[], [.i32]⟩, false⟩] }
    let funcs : List Function := [.compiled ⟨[0], [], 1, 0, 0, true⟩]
    ∃ vm, newVM module funcs false false = .ok vm ∧
      ∀ r, ExecCode decode F vm.close 0 [] r ↔ r = .crashed .indexOutOfRange :=
  ⟨_, rfl, fun _ => by
    refine (execCode_of_abort (m := ⟨?vm, true, []⟩) rfl ?start).trans ?_
    case start =>
      refine execCodeStart_eq_ready (g := ⟨⟨[], [.i32]⟩, false⟩) (f := ⟨[0], [], 1, 0, 0, true⟩)
        ?_ ?_ ?_ ?_ ?_ ?_ <;> decide
    exact Iff.rfl⟩

end ExecCode

end Wagon
