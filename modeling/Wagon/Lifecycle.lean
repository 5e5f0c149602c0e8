import Wagon.Pages
import Wagon.UpperBits

/-! # The lifecycle of a VM

`NewVM` fixes a VM's module, function table, number of globals and stack-depth check for good.
Of the flags, only a client changes `RecoverPanic`; only `Restart` lowers the abort flag, and
only `Close` and a host function's `Terminate` raise it. The pgx transaction that `NewVM`
begins with a connection pool is committed by the first call of `ExecCode` that reaches its
end, and pgx refuses it from then on.

Consequences over every history of a VM: at most one call of `ExecCode` returns a nil error,
none without a database; a module with a start function has spent that call inside `NewVM`;
and `Restart` sets every global back to its initialiser's value. -/

namespace Wagon

structure Shape where
  module : Module
  funcs : List Function
  globals : Nat
  debugStackDepth : Bool

def Fixed.shape (f : Fixed) : Shape := ⟨f.module, f.funcs, f.globals, f.debugStackDepth⟩

def VM.shape (vm : VM) : Shape := vm.fixed.shape

@[simp] theorem VM.restart_shape (vm : VM) : vm.restart.shape = vm.shape :=
  (congrArg Fixed.shape (VM.restart_fixed vm) :)

/-- What `NewVMResult` ends with: the VM, an error of its own checks (or a panic it does not
recover), or the error the start function's `ExecCode` returned. -/
inductive NewVMResult where
  | ok (vm : VM)
  | error (e : NewVMError)
  | startError (e : ExecError)

section Start

variable (decode : Byte → Instr) (F : FloatOps) (module : Module) (funcs : List Function)
  (pg debugStackDepth : Bool)

/-- `NewVM` to its end. `start` is the index of the module's start function (`module.Start`),
if it has one: it runs as `ExecCode` with no arguments on the VM built so far, with
`RecoverPanic` still unset. An error it returns is returned by `NewVM`; a panic leaves `NewVM`;
otherwise `NewVM` returns the VM the start function's `ExecCode` leaves. -/
inductive NewVM (start : Option Nat) : NewVMResult → Prop where
  | failed {e : NewVMError} : newVM module funcs pg debugStackDepth = .error e → NewVM start (.error e)
  | noStart {vm : VM} : newVM module funcs pg debugStackDepth = .ok vm → start = none →
      NewVM start (.ok vm)
  | startReturnedError {vm : VM} {i : Nat} {rtrn : Option Value} {err : ExecError} :
      newVM module funcs pg debugStackDepth = .ok vm → start = some i →
      ExecCode decode F vm i [] (.returned rtrn (some err)) → NewVM start (.startError err)
  | startCrashed {vm : VM} {i : Nat} {e : Trap} :
      newVM module funcs pg debugStackDepth = .ok vm → start = some i →
      ExecCode decode F vm i [] (.crashed e) → NewVM start (.error (.crash e))
  | started {vm vm' : VM} {i : Nat} {rtrn : Option Value} :
      newVM module funcs pg debugStackDepth = .ok vm → start = some i →
      ExecCodeRun decode F vm i [] (.returned rtrn none) vm' → NewVM start (.ok vm')

end Start

section Operations

variable {decode : Byte → Instr} {F : FloatOps} {vm vm' : VM}

theorem flags_of_same (hr : vm'.recoverPanic = vm.recoverPanic) (ha : vm'.abort = vm.abort)
    (hp : vm'.pgTx = vm.pgTx) :
    (vm'.recoverPanic ≠ vm.recoverPanic → vm' = { vm with recoverPanic := vm'.recoverPanic }) ∧
    (vm.abort = true → vm'.abort = false → vm' = vm.restart) ∧
    (vm.abort = false → vm'.abort = true →
      vm' = vm.close ∨ ∃ idx r, HostCall vm idx r ∧ vm' = resultVM r) ∧
    (vm'.pgTx ≠ vm.pgTx → vm.pgTx = .inProgress ∧ vm' = { vm with pgTx := .committed }) := by
  refine ⟨fun h => absurd hr h, fun h₁ h₂ => ?_, fun h₁ h₂ => ?_, fun h => absurd hp h⟩ <;>
    simp_all

/-- What one operation changes of the shape and the flags: no shape; `RecoverPanic` only when
a client sets it; the abort flag down only by `Restart` and up only by `Close` or a host
function; the transaction only by committing one in progress. -/
theorem Operation.flags (h : Operation decode F vm vm') :
    vm'.shape = vm.shape ∧
    (vm'.recoverPanic ≠ vm.recoverPanic → vm' = { vm with recoverPanic := vm'.recoverPanic }) ∧
    (vm.abort = true → vm'.abort = false → vm' = vm.restart) ∧
    (vm.abort = false → vm'.abort = true →
      vm' = vm.close ∨ ∃ idx r, HostCall vm idx r ∧ vm' = resultVM r) ∧
    (vm'.pgTx ≠ vm.pgTx → vm.pgTx = .inProgress ∧ vm' = { vm with pgTx := .committed }) := by
  rcases h.cases with h | ⟨vm₁, h₁, -, rfl⟩ | ⟨hc, h⟩ | rfl | rfl | ⟨b, rfl⟩ | rfl
  · exact ⟨(congrArg Fixed.shape h :), flags_of_same (congrArg Fixed.recoverPanic h :)
      (congrArg Fixed.abort h :) (congrArg Fixed.pgTx h :)⟩
  · have h' := (growMemory_fixed vm₁).trans (congrArg (fun f => { f with memoryLength :=
      (resultVM (growMemory vm₁)).memory.length }) h₁)
    exact ⟨(congrArg Fixed.shape h' :), flags_of_same (congrArg Fixed.recoverPanic h' :)
      (congrArg Fixed.abort h' :) (congrArg Fixed.pgTx h' :)⟩
  · have ha : vm'.abort = true := (congrArg Fixed.abort h :)
    refine ⟨(congrArg Fixed.shape h :), fun h' => absurd (congrArg Fixed.recoverPanic h :) h',
      fun _ h' => absurd (ha.symm.trans h') (by decide), fun _ _ => .inr hc,
      fun h' => absurd (congrArg Fixed.pgTx h :) h'⟩
  · refine ⟨VM.restart_shape vm, fun h => absurd rfl h, fun _ _ => rfl, fun _ h => ?_,
      fun h => absurd rfl h⟩
    cases h
  · refine ⟨rfl, fun h => absurd rfl h, fun _ h => ?_, fun _ _ => .inl rfl, fun h => absurd rfl h⟩
    cases h
  · exact ⟨rfl, fun _ => rfl, fun h₁ h₂ => absurd (h₁.symm.trans h₂) (by decide),
      fun h₁ h₂ => absurd (h₁.symm.trans h₂) (by decide), fun h => absurd rfl h⟩
  · rw [resultVM_commit]
    split
    · rename_i hp
      exact ⟨rfl, fun h => absurd rfl h, fun h₁ h₂ => absurd (h₁.symm.trans h₂) (by decide),
        fun h₁ h₂ => absurd (h₁.symm.trans h₂) (by decide), fun _ => ⟨hp, rfl⟩⟩
    · exact ⟨rfl, flags_of_same rfl rfl rfl⟩

theorem shape_of_reachable (h : Relation.ReflTransGen (Operation decode F) vm vm') :
    vm'.shape = vm.shape := by
  induction h with
  | refl => rfl
  | tail _ ho ih => exact ho.flags.1.trans ih

/-- Only a commit changes the transaction, and only one in progress: a VM without a
transaction, or with a committed one, keeps it for good. -/
theorem pgTx_of_reachable (h : Relation.ReflTransGen (Operation decode F) vm vm')
    (hp : vm.pgTx ≠ .inProgress) : vm'.pgTx = vm.pgTx := by
  induction h with
  | refl => rfl
  | @tail b c _ ho ih =>
    by_cases hc : c.pgTx = b.pgTx
    · exact hc.trans ih
    · exact absurd (ih ▸ (ho.flags.2.2.2.2 hc).1) hp

theorem step_pgTx {m : Machine} {o : Outcome} (hs : step decode F m = o) :
    o.vm.pgTx = m.vm.pgTx := by
  subst hs
  rcases step_cases decode F m with h | ⟨vm, hf, -, he⟩
  · exact congrArg Fixed.pgTx h
  · rw [he]
    exact (congrArg Fixed.pgTx (growMemory_fixed vm)).trans (congrArg Fixed.pgTx hf)

theorem HostCall.pgTx {idx : Nat} {r : EStateM.Result Trap VM Unit} (h : HostCall vm idx r) :
    (resultVM r).pgTx = vm.pgTx := by
  rcases h.raised with h | h <;> exact congrArg Fixed.pgTx h

theorem Steps.pgTx {m : Machine} {o : Outcome} (h : Steps decode F m o) :
    o.vm.pgTx = m.vm.pgTx := by
  induction h with
  | refl => rfl
  | head hs _ ih => exact ih.trans (step_pgTx hs)
  | last hs => exact step_pgTx hs
  | host hs hc _ ih => exact ih.trans ((HostCall.pgTx hc).trans (step_pgTx hs))
  | hostPanic hs hc => exact (HostCall.pgTx hc).trans (step_pgTx hs)

theorem ExecResult.ofPanic_ne_returned (vm : VM) (e : Trap) (rtrn : Option Value) :
    ExecResult.ofPanic vm e ≠ .returned rtrn none := by
  unfold ExecResult.ofPanic
  split <;> nofun

theorem execCodeEnd_eq_returned {fnIndex : Int} {returns : Bool} {res : Word} {rtrn : Option Value}
    (h : execCodeEnd fnIndex returns vm res = .returned rtrn none) :
    vm.pgTx = .inProgress ∧ (execCodeLeaves fnIndex returns vm res).pgTx = .committed := by
  unfold execCodeEnd at h
  unfold execCodeLeaves
  cases hv : returnValue fnIndex returns vm res with
  | error e =>
    rw [hv] at h
    exact absurd h (ExecResult.ofPanic_ne_returned _ _ _)
  | ok v =>
    rw [hv] at h
    unfold commit at h ⊢
    cases hp : vm.pgTx <;> simp only [hp] at h ⊢
    · split at h <;> cases h
    · exact ⟨trivial, rfl⟩
    · split at h <;> cases h

/-- A call of `ExecCode` that returns a nil error was made on a VM whose transaction is in
progress, and leaves it committed. -/
theorem ExecCodeRun.committed {fnIndex : Int} {args : List Word} {rtrn : Option Value}
    (h : ExecCodeRun decode F vm fnIndex args (.returned rtrn none) vm') :
    vm.pgTx = .inProgress ∧ vm'.pgTx = .committed := by
  generalize hr : ExecResult.returned rtrn none = r at h
  cases h with
  | refused _ => cases hr
  | panickedAtStart _ | trapped _ _ => exact absurd hr.symm (ExecResult.ofPanic_ne_returned _ _ _)
  | finished hm hs =>
    have hp := (Steps.pgTx hs).trans (congrArg Fixed.pgTx (execCodeStart_fixed.1 _ hm))
    obtain ⟨hi, hc⟩ := execCodeEnd_eq_returned hr.symm
    exact ⟨hp.symm.trans hi, hc⟩

theorem not_returned_of_committed (hc : vm.pgTx = .committed)
    (hr : Relation.ReflTransGen (Operation decode F) vm vm') {fnIndex : Int} {args : List Word}
    {rtrn : Option Value} : ¬ExecCode decode F vm' fnIndex args (.returned rtrn none) := by
  rintro ⟨_, hx⟩
  have hp := pgTx_of_reachable hr (by rw [hc]; decide)
  rw [hc, hx.committed.1] at hp
  cases hp

end Operations

section Lifecycle

variable {decode : Byte → Instr} {F : FloatOps} {module : Module} {funcs : List Function}
  {pg debugStackDepth : Bool} {start : Option Nat} {vm₀ vm vm' : VM}

theorem newVM_globals (h₀ : newVM module funcs pg debugStackDepth = .ok vm₀) :
    vm₀.shape = ⟨module, funcs, module.globalInits.length, debugStackDepth⟩ ∧
    vm₀.pgTx = (if pg then .inProgress else .nil) ∧
    ∃ vs : List InitValue, module.globalInits = vs.map some ∧
      vm₀.globals = vs.map InitValue.word := by
  unfold newVM at h₀
  cases hm : initialMemory module with
  | error e => simp [hm, bind, Except.bind] at h₀
  | ok mem =>
    simp only [hm, bind, Except.bind] at h₀
    split at h₀
    · cases h₀
    · rename_i hg
      cases h₀
      obtain ⟨vs, hvs⟩ := resetGlobalsFrom_ok (by simpa using hg)
      refine ⟨by simp [VM.shape, VM.fixed, Fixed.shape, resetGlobalsFrom_length], rfl, vs, hvs, ?_⟩
      show (resetGlobalsFrom 0 module.globalInits _).1 = _
      rw [hvs, resetGlobalsFrom_values vs 0 _ (by simp)]
      simp

/-- The VM `NewVM` returns is reached from the one it builds by operations: the start
function's call of `ExecCode`. -/
theorem NewVM.reachable (h : NewVM decode F module funcs pg debugStackDepth start (.ok vm)) :
    ∃ vm₀, newVM module funcs pg debugStackDepth = .ok vm₀ ∧
      Relation.ReflTransGen (Operation decode F) vm₀ vm := by
  cases h with
  | noStart h₀ _ => exact ⟨_, h₀, .refl⟩
  | started h₀ _ hx => exact ⟨_, h₀, hx.operations⟩

/-- `Restart`, after any history from `NewVM` (its start function included), sets every global
to the value of its initialiser, whatever `set_global` or the start function stored, and keeps
the shape. -/
theorem restart_restores_globals (h : NewVM decode F module funcs pg debugStackDepth start (.ok vm₀))
    (hr : Relation.ReflTransGen (Operation decode F) vm₀ vm) :
    ∃ vs : List InitValue, module.globalInits = vs.map some ∧
      vm.restart.globals = vs.map InitValue.word ∧ vm.restart.shape = vm.shape := by
  obtain ⟨vm₁, h₁, hr₁⟩ := h.reachable
  obtain ⟨hs₁, -, vs, hvs, -⟩ := newVM_globals h₁
  have hs := (shape_of_reachable (hr₁.trans hr)).trans hs₁
  have hm : vm.module = module := congrArg Shape.module hs
  have hl : vm.globals.length = module.globalInits.length := congrArg Shape.globals hs
  refine ⟨vs, hvs, ?_, VM.restart_shape vm⟩
  show (resetGlobalsFrom 0 vm.module.globalInits vm.globals).1 = _
  rw [hm, hvs, resetGlobalsFrom_values vs 0 _ (by rw [hl, hvs]; simp)]
  simp

/-- The module above with its global initialised to `7`: `set_global` stores `9`, and
`Restart` puts `7` back. -/
theorem restart_restores_globals_after_setGlobal :
    let module : Module := ⟨[], [], [⟨⟨[], []⟩, false⟩], [some (.int64 7)], [], []⟩
    let f : CompiledFunction := ⟨[9, 0, 0, 0, 0, 0, 0, 0, 0, 0, 0, 0], [], 1, 0, 0, false⟩
    ∃ vm₀ vm, NewVM (fun _ => .return) default module [.compiled f] false false none (.ok vm₀) ∧
      Relation.ReflTransGen (Operation (fun _ => .return) default) vm₀ vm ∧
      vm.globals = [9] ∧ vm.restart.globals = [7] := by
  intro module f
  let vm₀ : VM := ⟨⟨⟨[], 0, le_refl _⟩, [], [], 0, 0⟩, module, [7], [], [.compiled f], false, false,
    .nil, false⟩
  have h₀ : NewVM (fun _ => .return) default module [.compiled f] false false none (.ok vm₀) :=
    .noStart rfl rfl
  have hr := ((Relation.ReflTransGen.single
    (@Operation.start (fun _ => .return) default 0 [] vm₀ _ rfl)).tail
    (.instr (.op .i64Const) _)).tail (.instr (.op .setGlobal) _)
  obtain ⟨vs, hvs, hg, -⟩ := restart_restores_globals h₀ hr
  obtain rfl : vs = [.int64 7] := List.map_injective_iff.2 (Option.some_injective _)
    (hvs.symm : List.map some vs = List.map some [.int64 7])
  exact ⟨vm₀, _, h₀, hr, by decide, hg⟩

end Lifecycle

end Wagon
