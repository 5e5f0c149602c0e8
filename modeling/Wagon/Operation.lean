import Wagon.Dispatch

/-! # What the operations on a VM keep

`Fixed` is what the interpreter leaves alone: the length of linear memory, the module, the
function table, the number of globals, the depth check, `RecoverPanic`, the abort flag and the
transaction. Every handler but `grow_memory`, every inline case of the dispatch loop, every
call and return and the set-up of `ExecCode` keep it, also when they panic part-way;
`grow_memory` changes the length of memory only. A host function changes at most the abort
flag, which `Process.Terminate` raises.

`Operation` collects what a VM undergoes after `NewVM`, and `Operation.cases` says once what
each of them may change; a call of `ExecCode` is a sequence of operations. -/

namespace Wagon

structure Fixed where
  memoryLength : Nat
  module : Module
  funcs : List Function
  globals : Nat
  debugStackDepth : Bool
  recoverPanic : Bool
  abort : Bool
  pgTx : Tx

def VM.fixed (vm : VM) : Fixed :=
  ⟨vm.memory.length, vm.module, vm.funcs, vm.globals.length, vm.debugStackDepth, vm.recoverPanic,
    vm.abort, vm.pgTx⟩

@[simp] theorem VM.fixed_withCtx (vm : VM) (c : Context) :
    ({ vm with ctx := c } : VM).fixed = vm.fixed := rfl

theorem VM.fixed_withMemory {vm : VM} {m : List Byte} (h : m.length = vm.memory.length) :
    (vm.withMemory m).fixed = vm.fixed := by
  simp only [VM.fixed, VM.withMemory, h]

section Keeps

variable {α β : Type}

/-- `x` leaves what is fixed as it found it, also when it panics. -/
def KeepsFixed (x : Exec α) : Prop :=
  ∀ vm, (resultVM (x vm)).fixed = vm.fixed

@[simp] theorem keepsFixed_pure (a : α) : KeepsFixed (pure a : Exec α) := fun _ => rfl

@[simp] theorem keepsFixed_throw (e : Trap) : KeepsFixed (throw e : Exec α) := fun _ => rfl

@[simp] theorem keepsFixed_get : KeepsFixed (get : Exec VM) := fun _ => rfl

@[simp] theorem keepsFixed_bind {x : Exec α} {f : α → Exec β} (hx : KeepsFixed x)
    (hf : ∀ a, KeepsFixed (f a)) : KeepsFixed (x >>= f) := by
  intro vm
  rw [bind_apply, EStateM.bind, ← hx vm]
  cases x vm with
  | ok a vm' => exact hf a vm'
  | error e vm' => rfl

@[simp] theorem keepsFixed_map {g : α → β} {x : Exec α} (hx : KeepsFixed x) :
    KeepsFixed (g <$> x) := by
  intro vm
  rw [map_apply, EStateM.map, ← hx vm]
  cases x vm <;> rfl

@[simp] theorem keepsFixed_ite {p : Prop} [Decidable p] {x y : Exec α} (hx : KeepsFixed x)
    (hy : KeepsFixed y) : KeepsFixed (if p then x else y) := by
  split <;> assumption

@[simp] theorem keepsFixed_modify {f : VM → VM} (hf : ∀ vm, (f vm).fixed = vm.fixed) :
    KeepsFixed (modify f) := hf

theorem keepsFixed_forM {l : List α} {f : α → Exec Unit} (hf : ∀ a, KeepsFixed (f a)) :
    KeepsFixed (l.forM f) := by
  induction l with
  | nil => exact keepsFixed_pure ()
  | cons a l ih => exact keepsFixed_bind (hf a) fun _ => ih

theorem keepsFixed_of_pure {x : Exec α} (h : ∀ vm, resultVM (x vm) = vm) : KeepsFixed x :=
  fun vm => by rw [h]

@[simp] theorem keepsFixed_goIndex (s : List α) (i : Nat) : KeepsFixed (goIndex s i) :=
  keepsFixed_of_pure fun vm => by unfold goIndex; split <;> rfl

@[simp] theorem keepsFixed_fetchBytes (n : Nat) : KeepsFixed (fetchBytes n) := by
  intro vm; unfold fetchBytes; split <;> rfl

@[simp] theorem keepsFixed_popUint64 : KeepsFixed popUint64 := by
  intro vm; unfold popUint64; split <;> rfl

@[simp] theorem keepsFixed_pushUint64 (i : Word) : KeepsFixed (pushUint64 i) := by
  intro vm; unfold pushUint64; split <;> rfl

@[simp] theorem keepsFixed_stackTop : KeepsFixed stackTop :=
  keepsFixed_of_pure fun vm => by unfold stackTop; split <;> rfl

end Keeps

@[simp] theorem keepsFixed_popUint32 : KeepsFixed popUint32 := by simp [popUint32]
@[simp] theorem keepsFixed_popInt32 : KeepsFixed popInt32 := keepsFixed_popUint32
@[simp] theorem keepsFixed_popFloat32 : KeepsFixed popFloat32 := keepsFixed_popUint32
@[simp] theorem keepsFixed_popInt64 : KeepsFixed popInt64 := keepsFixed_popUint64
@[simp] theorem keepsFixed_popFloat64 : KeepsFixed popFloat64 := keepsFixed_popUint64
@[simp] theorem keepsFixed_pushUint32 (v : BitVec 32) : KeepsFixed (pushUint32 v) :=
  keepsFixed_pushUint64 _
@[simp] theorem keepsFixed_pushInt32 (v : BitVec 32) : KeepsFixed (pushInt32 v) :=
  keepsFixed_pushUint64 _
@[simp] theorem keepsFixed_pushFloat32 (v : BitVec 32) : KeepsFixed (pushFloat32 v) :=
  keepsFixed_pushUint64 _
@[simp] theorem keepsFixed_pushInt64 (v : Word) : KeepsFixed (pushInt64 v) :=
  keepsFixed_pushUint64 _
@[simp] theorem keepsFixed_pushFloat64 (v : Word) : KeepsFixed (pushFloat64 v) :=
  keepsFixed_pushUint64 _
@[simp] theorem keepsFixed_pushBool (v : Bool) : KeepsFixed (pushBool v) :=
  keepsFixed_pushUint64 _
@[simp] theorem keepsFixed_fetchInt8 : KeepsFixed fetchInt8 := by simp [fetchInt8]
@[simp] theorem keepsFixed_fetchUint32 : KeepsFixed fetchUint32 := by simp [fetchUint32]
@[simp] theorem keepsFixed_fetchUint64 : KeepsFixed fetchUint64 := by simp [fetchUint64]

section Shapes

variable {α β γ : Type}

@[simp] theorem unop_keepsFixed {pop : Exec α} {op : α → β} {push : β → Exec Unit}
    (hp : KeepsFixed pop) (hq : ∀ b, KeepsFixed (push b)) : KeepsFixed (unop pop op push) :=
  keepsFixed_bind hp fun _ => hq _

@[simp] theorem binop_keepsFixed {pop₁ : Exec α} {pop₂ : Exec β} {op : α → β → γ}
    {push : γ → Exec Unit} (hp₁ : KeepsFixed pop₁) (hp₂ : KeepsFixed pop₂)
    (hq : ∀ c, KeepsFixed (push c)) : KeepsFixed (binop pop₁ pop₂ op push) :=
  keepsFixed_bind hp₁ fun _ => keepsFixed_bind hp₂ fun _ => hq _

@[simp] theorem divop_keepsFixed {pop : Exec α} {op : α → α → Exec α} {push : α → Exec Unit}
    (hp : KeepsFixed pop) (ho : ∀ a b, KeepsFixed (op a b)) (hq : ∀ c, KeepsFixed (push c)) :
    KeepsFixed (divop pop op push) :=
  keepsFixed_bind hp fun _ => keepsFixed_bind hp fun _ => keepsFixed_bind (ho _ _) fun _ => hq _

@[simp] theorem goDivide_keepsFixed {n : Nat} (f : BitVec n → BitVec n → BitVec n)
    (x y : BitVec n) : KeepsFixed (goDivide f x y) := by
  unfold goDivide; simp

@[simp] theorem memPut_keepsFixed (addr : Nat) (b : List Byte) : KeepsFixed (memPut addr b) := by
  intro vm
  unfold memPut
  split
  · refine @VM.fixed_withMemory vm _ ?_
    simp only [List.length_append, List.length_take, List.length_drop]
    omega
  · rfl

@[simp] theorem keepsFixed_inBounds (offset : Nat) : KeepsFixed (inBounds offset) :=
  keepsFixed_of_pure fun vm => by unfold inBounds; split <;> rfl

@[simp] theorem keepsFixed_fetchBaseAddr : KeepsFixed fetchBaseAddr := by
  simp [fetchBaseAddr]

@[simp] theorem load_keepsFixed {offset : Nat} {read : Nat → Exec α} {push : α → Exec Unit}
    (hr : ∀ a, KeepsFixed (read a)) (hq : ∀ v, KeepsFixed (push v)) :
    KeepsFixed (load offset read push) := by
  repeat' first
    | with_reducible refine keepsFixed_bind ?_ fun _ => ?_
    | with_reducible apply keepsFixed_ite
    | simp only [keepsFixed_pure, keepsFixed_throw, keepsFixed_inBounds,
        keepsFixed_fetchBaseAddr, hr, hq]
    | refine keepsFixed_bind ?_ fun _ => ?_

@[simp] theorem store_keepsFixed {offset : Nat} {val : α} {write : Nat → α → Exec Unit}
    (hw : ∀ a v, KeepsFixed (write a v)) : KeepsFixed (store offset val write) := by
  repeat' first
    | with_reducible refine keepsFixed_bind ?_ fun _ => ?_
    | with_reducible apply keepsFixed_ite
    | simp only [keepsFixed_pure, keepsFixed_throw, keepsFixed_inBounds,
        keepsFixed_fetchBaseAddr, hw]
    | refine keepsFixed_bind ?_ fun _ => ?_

end Shapes

@[simp] theorem memRead_keepsFixed (n w addr : Nat) : KeepsFixed (memRead n w addr) := by
  have hm : KeepsFixed (memFrom addr) :=
    keepsFixed_of_pure fun vm => by unfold memFrom; split <;> rfl
  simp [memRead, uintLE, hm]

@[simp] theorem memByte_keepsFixed (addr : Nat) : KeepsFixed (memByte addr) :=
  keepsFixed_of_pure fun vm => by unfold memByte; split <;> rfl

theorem intOp_keepsFixed (o : IntOp) : KeepsFixed o.handler := by
  cases o <;> simp [IntOp.handler.eq_def, i32Clz, i32Ctz, i32Popcnt, i32Add, i32Sub, i32Mul,
    i32DivS, i32DivU, i32RemS, i32RemU, i32And, i32Or, i32Xor, i32Shl, i32ShrS, i32ShrU, i32Rotl,
    i32Rotr, i32LeS, i32LeU, i32LtS, i32LtU, i32GtS, i32GtU, i32GeS, i32GeU, i32Eqz, i32Eq, i32Ne,
    i64Clz, i64Ctz, i64Popcnt, i64Add, i64Sub, i64Mul, i64DivS, i64DivU, i64RemS, i64RemU, i64And,
    i64Or, i64Xor, i64Shl, i64ShrS, i64ShrU, i64Rotl, i64Rotr, i64Eq, i64Eqz, i64Ne, i64LtS,
    i64LtU, i64GtS, i64GtU, i64LeU, i64LeS, i64GeS, i64GeU, goDivS, goDivU, goRemS, goRemU]

theorem floatOp_keepsFixed (F : FloatOps) (o : FloatOp) : KeepsFixed (o.handler F) := by
  cases o <;> simp [FloatOp.handler.eq_def, f32Abs, f32Neg, f32Ceil, f32Floor, f32Trunc, f32Nearest,
    f32Sqrt, f32Add, f32Sub, f32Mul, f32Div, f32Min, f32Max, f32Copysign, f32Eq, f32Ne, f32Lt,
    f32Gt, f32Le, f32Ge, f64Abs, f64Neg, f64Ceil, f64Floor, f64Trunc, f64Nearest, f64Sqrt, f64Add,
    f64Sub, f64Mul, f64Div, f64Min, f64Max, f64Copysign, f64Eq, f64Ne, f64Lt, f64Gt, f64Le, f64Ge]

theorem convOp_keepsFixed (F : FloatOps) (o : ConvOp) : KeepsFixed (o.handler F) := by
  cases o <;> simp [ConvOp.handler.eq_def, i32Wrapi64, i32TruncSF32, i32TruncUF32, i32TruncSF64,
    i32TruncUF64, i64ExtendSI32, i64ExtendUI32, i64TruncSF32, i64TruncUF32, i64TruncSF64,
    i64TruncUF64, f32ConvertSI32, f32ConvertUI32, f32ConvertSI64, f32ConvertUI64, f32DemoteF64,
    f64ConvertSI32, f64ConvertUI32, f64ConvertSI64, f64ConvertUI64, f64PromoteF32]

theorem load_handler_keepsFixed (l : Load) : KeepsFixed l.handler := by
  cases l <;> simp [Load.handler, i32Load, i32Load8s, i32Load8u, i32Load16s, i32Load16u, i64Load,
    i64Load8s, i64Load8u, i64Load16s, i64Load16u, i64Load32s, i64Load32u, f32Load, f64Load,
    memUint16, memUint32, memUint64]

theorem store_handler_keepsFixed (s : Store) : KeepsFixed s.handler := by
  cases s <;> simp [Store.handler, f32Store, f64Store, i32Store, i32Store8, i32Store16, i64Store,
    i64Store8, i64Store16, i64Store32, putByte, putUint16, putUint32, putUint64]

@[simp] theorem keepsFixed_goSet (s : List Word) (i : Nat) (v : Word) :
    KeepsFixed (goSet s i v) :=
  keepsFixed_of_pure fun vm => by unfold goSet; split <;> rfl

@[simp] theorem keepsFixed_drop : KeepsFixed drop := by
  intro vm; unfold drop; split <;> rfl

theorem keepsFixed_setGlobal : KeepsFixed setGlobal := by
  unfold setGlobal
  refine keepsFixed_bind keepsFixed_fetchUint32 fun i => keepsFixed_bind keepsFixed_popUint64
    fun v vm => ?_
  rw [get_bind_apply, bind_apply, EStateM.bind, goSet]
  by_cases h : i.toNat < vm.globals.length
  · simp only [if_pos h, resultVM, modify, modifyGet, MonadStateOf.modifyGet, EStateM.modifyGet,
      VM.fixed, VM.withGlobals, List.length_set]
  · simp only [if_neg h, resultVM]

theorem op_keepsFixed (F : FloatOps) {o : Op} (h : o ≠ .growMemory) : KeepsFixed (o.handler F) := by
  cases o with
  | int o => exact intOp_keepsFixed o
  | float o => exact floatOp_keepsFixed F o
  | conv o => exact convOp_keepsFixed F o
  | load l => exact load_handler_keepsFixed l
  | store s => exact store_handler_keepsFixed s
  | setGlobal => exact keepsFixed_setGlobal
  | growMemory => exact absurd rfl h
  | _ =>
    simp only [Op.handler.eq_def]
    repeat' first
      | with_reducible refine keepsFixed_bind ?_ fun _ => ?_
      | simp only [keepsFixed_pure, keepsFixed_throw, keepsFixed_get, keepsFixed_fetchInt8,
          keepsFixed_fetchUint32, keepsFixed_fetchUint64, keepsFixed_popUint64,
          keepsFixed_popUint32, keepsFixed_pushUint64, keepsFixed_pushUint32,
          keepsFixed_pushInt32, keepsFixed_pushFloat32, keepsFixed_pushFloat64,
          keepsFixed_fetchBytes, keepsFixed_goIndex, keepsFixed_goSet, keepsFixed_stackTop,
          keepsFixed_drop, fetchFloat32, fetchFloat64, unreachable, nop]
      | (with_reducible apply keepsFixed_modify); exact fun _ => rfl
      | refine keepsFixed_bind ?_ fun _ => ?_

theorem resultVM_bind_pure {α β : Type} (x : Exec α) (g : α → β) (vm : VM) :
    resultVM ((x >>= fun a => pure (g a)) vm) = resultVM (x vm) := by
  rw [bind_apply, EStateM.bind]
  cases x vm <;> rfl

theorem growMemory_fixed (vm : VM) :
    (resultVM (growMemory vm)).fixed =
      { vm.fixed with memoryLength := (resultVM (growMemory vm)).memory.length } := by
  rcases hr : codeAt vm.ctx.code vm.ctx.pc 1 with _ | r
  · rw [growMemory, bind_error (fetchInt8_error hr)]
    rfl
  rcases hs : vm.ctx.stack.items with _ | ⟨n, rest⟩
  · have hs' : (vm.skip 1).ctx.stack.items = [] := hs
    rw [growMemory, bind_ok (fetchInt8_ok hr)]
    simp only [bind_apply, EStateM.bind, get, getThe, MonadStateOf.get, EStateM.get, popInt32,
      popUint32, map_apply, EStateM.map, popUint64_error hs']
    rfl
  · rw [growMemory_apply hr hs]
    split <;> rfl

theorem checkTypes_keepsFixed (ts us : List ValueType) : KeepsFixed (checkTypes ts us) := by
  induction ts, us using checkTypes.induct <;> simp [checkTypes, *]

@[simp] theorem keepsFixed_setPc (target : Word) : KeepsFixed (setPc target) :=
  keepsFixed_modify fun _ => rfl

@[simp] theorem keepsFixed_discardTop (n : Word) : KeepsFixed (discardTop n) := by
  intro vm; unfold discardTop; split <;> rfl

@[simp] theorem keepsFixed_goIndexInt {α : Type} (s : List α) (i : Int) :
    KeepsFixed (goIndexInt s i) := by
  unfold goIndexInt; split <;> simp

@[simp] theorem keepsFixed_branchDiscard (p : Bool) (d : Word) :
    KeepsFixed (branchDiscard p d) := by
  unfold branchDiscard; split <;> simp

@[simp] theorem keepsFixed_curCompiled : KeepsFixed curCompiled :=
  keepsFixed_bind keepsFixed_get fun _ => keepsFixed_bind keepsFixed_get fun _ =>
    keepsFixed_bind (keepsFixed_goIndexInt _ _) fun f => by cases f <;> simp

theorem execInstr_keepsFixed (F : FloatOps) {i : Instr} (h : i ≠ .op .growMemory) :
    KeepsFixed (execInstr F i) := by
  cases i with
  | op o => simp [execInstr.eq_def, op_keepsFixed F fun e => h (e ▸ rfl)]
  | _ =>
    simp only [execInstr.eq_def]
    repeat' first
      | with_reducible refine keepsFixed_bind ?_ fun _ => ?_
      | with_reducible apply keepsFixed_ite
      | with_reducible apply keepsFixed_map
      | simp only [keepsFixed_pure, keepsFixed_throw, keepsFixed_get, keepsFixed_fetchInt8,
          keepsFixed_fetchUint32, keepsFixed_fetchUint64, keepsFixed_popUint64,
          keepsFixed_popUint32, keepsFixed_pushUint64, keepsFixed_goIndex,
          keepsFixed_stackTop, keepsFixed_discardTop, keepsFixed_setPc, keepsFixed_fetchBytes,
          checkTypes_keepsFixed, fetchInt64, fetchBool, keepsFixed_goIndexInt,
          keepsFixed_branchDiscard, keepsFixed_curCompiled]
      | split
      | refine keepsFixed_bind ?_ fun _ => ?_

/-- A case of the switch keeps what is fixed, unless it is `grow_memory`: then it leaves what
`grow_memory` leaves, and goes on with the next pass. -/
theorem execInstr_cases (F : FloatOps) (i : Instr) (vm : VM) :
    (resultVM (execInstr F i vm)).fixed = vm.fixed ∨
      resultVM (execInstr F i vm) = resultVM (growMemory vm) ∧
        ∀ s vm', execInstr F i vm = .ok s vm' → s = .next := by
  by_cases h : i = .op .growMemory
  · subst h
    refine .inr ⟨resultVM_bind_pure growMemory (fun _ => Signal.next) vm, fun s vm' hs => ?_⟩
    have he : execInstr F (.op .growMemory) vm = (growMemory >>= fun _ => pure Signal.next) vm :=
      rfl
    rw [he, bind_apply, EStateM.bind] at hs
    split at hs <;> cases hs
    rfl
  · exact .inl (execInstr_keepsFixed F h vm)

theorem popArgs_keepsFixed (n : Nat) : KeepsFixed (popArgs n) := by
  induction n with
  | zero => exact keepsFixed_pure _
  | succ n ih =>
    exact keepsFixed_bind keepsFixed_popUint64 fun _ =>
      keepsFixed_bind ih fun _ => keepsFixed_pure _

theorem finish_fixed (m : Machine) : (finish m).vm.fixed = m.vm.fixed := by
  unfold finish
  split
  · rfl
  · rfl
  · dsimp only
    split
    · split <;> rename_i h <;> unfold pushUint64 at h <;> split at h <;> cases h <;> rfl
    · rfl

theorem invoke_fixed (idx : Nat) (m : Machine) : (invoke idx m).vm.fixed = m.vm.fixed := by
  unfold invoke
  split
  · rfl
  · rfl
  · rename_i f _
    have := popArgs_keepsFixed f.args m.vm
    split <;> rename_i h <;> rw [h] at this <;> exact this

section Loop

variable (decode : Byte → Instr) (F : FloatOps)

theorem loopBody_cases (vm : VM) :
    (resultVM (loopBody decode F vm)).fixed = vm.fixed ∨
      resultVM (loopBody decode F vm) = resultVM (growMemory (vm.skip 1)) ∧
        ∀ s vm', loopBody decode F vm = .ok s vm' → s = .next := by
  rw [loopBody, bind_apply, EStateM.bind]
  rcases hr : codeAt vm.ctx.code vm.ctx.pc 1 with _ | r
  · rw [fetchInt8_error hr]
    exact .inl rfl
  · rw [fetchInt8_ok hr]
    exact execInstr_cases F _ _

/-- A pass of the loop keeps what is fixed, unless it runs `grow_memory`: then it leaves
what `grow_memory` leaves on a VM with the same fixed part and memory. -/
theorem step_cases (m : Machine) :
    (step decode F m).vm.fixed = m.vm.fixed ∨
      ∃ vm, vm.fixed = m.vm.fixed ∧ vm.memory = m.vm.memory ∧
        (step decode F m).vm = resultVM (growMemory vm) := by
  unfold step
  split
  · rcases loopBody_cases decode F m.vm with h | ⟨h, hs⟩
    · left
      split <;> rename_i heq <;> rw [heq] at h
      · exact h
      · rwa [finish_fixed]
      · rwa [invoke_fixed]
      · exact h
    · right
      refine ⟨m.vm.skip 1, rfl, rfl, ?_⟩
      split <;> rename_i heq <;> rw [heq] at h
      · exact h
      · cases hs _ _ heq
      · cases hs _ _ heq
      · exact h
  · exact .inl (finish_fixed m)

end Loop

theorem execCodeStart_fixed {fnIndex : Int} {args : List Word} {vm : VM} :
    (∀ m, execCodeStart fnIndex args vm = .ready m → m.vm.fixed = vm.fixed) ∧
    ∀ e vm', execCodeStart fnIndex args vm = .panicked e vm' → vm'.fixed = vm.fixed := by
  refine ⟨fun m hm => ?_, fun e vm' hm => ?_⟩ <;> unfold execCodeStart at hm <;>
    (repeat' split at hm) <;> cases hm <;> rfl

theorem readAt_keepsFixed (p : List Byte) (off : Int) : KeepsFixed (Process.readAt p off) :=
  keepsFixed_of_pure fun vm => by unfold Process.readAt; dsimp only; split <;> rfl

theorem writeAt_keepsFixed (p : List Byte) (off : Int) : KeepsFixed (Process.writeAt p off) := by
  intro vm
  unfold Process.writeAt
  dsimp only
  split
  · rename_i dst _ hd _
    unfold goSlice at hd
    split at hd
    · cases hd
      refine @VM.fixed_withMemory vm _ ?_
      simp only [List.length_append, List.length_take, goCopy_length, List.length_drop]
      omega
    · cases hd
  · rfl
  · rfl

def Fixed.Raised (f f' : Fixed) : Prop := f' = f ∨ f' = { f with abort := true }

theorem Fixed.Raised.trans {f₁ f₂ f₃ : Fixed} (h₁ : f₁.Raised f₂) (h₂ : f₂.Raised f₃) :
    f₁.Raised f₃ := by
  rcases h₁ with rfl | rfl <;> rcases h₂ with rfl | rfl
  · exact .inl rfl
  all_goals exact .inr rfl

theorem raised_bind {α β : Type} {x : Exec α} {f : α → Exec β} {vm : VM}
    (hx : vm.fixed.Raised (resultVM (x vm)).fixed)
    (hf : ∀ (a : α) (vm' : VM), vm'.fixed.Raised (resultVM (f a vm')).fixed) :
    vm.fixed.Raised (resultVM ((x >>= f) vm)).fixed := by
  rw [bind_apply, EStateM.bind]
  cases h : x vm with
  | ok a vm' => rw [h] at hx; exact hx.trans (hf a vm')
  | error e vm' => rw [h] at hx; exact hx

theorem HostOp.run_raised (op : HostOp) (vm : VM) :
    vm.fixed.Raised (resultVM (op.run vm)).fixed := by
  cases op with
  | readAt p off =>
    exact .inl (keepsFixed_bind (readAt_keepsFixed p off) (fun _ => keepsFixed_pure ()) vm)
  | writeAt p off =>
    exact .inl (keepsFixed_bind (writeAt_keepsFixed p off) (fun _ => keepsFixed_pure ()) vm)
  | terminate => exact .inr rfl

theorem HostCall.raised {vm : VM} {idx : Nat} {r : EStateM.Result Trap VM Unit}
    (h : HostCall vm idx r) : vm.fixed.Raised (resultVM r).fixed := by
  obtain ⟨body, results, -, -⟩ := h
  have hb : ∀ vm' : VM, vm'.fixed.Raised (resultVM ((body.forM HostOp.run) vm')).fixed := by
    induction body with
    | nil => exact fun _ => .inl rfl
    | cons op body ih => exact fun vm' => raised_bind (op.run_raised vm') fun _ => ih
  exact raised_bind (.inl (popArgs_keepsFixed _ vm)) fun _ vm' => raised_bind (hb vm') fun _ vm'' =>
    .inl (keepsFixed_forM keepsFixed_pushUint64 vm'')

theorem resetGlobalsFrom_length (i : Nat) (inits : List (Option InitValue)) (globals : List Word) :
    (resetGlobalsFrom i inits globals).1.length = globals.length := by
  induction inits generalizing i globals with
  | nil => rfl
  | cons o inits ih =>
    cases o with
    | none => rfl
    | some v => exact (ih _ _).trans (List.length_set _ _ _)

@[simp] theorem VM.restart_fixed (vm : VM) :
    vm.restart.fixed = { vm.fixed with abort := false } := by
  simp only [VM.fixed, VM.restart, VM.resetGlobals, resetGlobalsFrom_length]

theorem resultVM_commit (vm : VM) :
    resultVM (commit vm) =
      if vm.pgTx = .inProgress then { vm with pgTx := .committed } else vm := by
  unfold commit
  cases h : vm.pgTx <;> simp [resultVM, h]

/-- The operations a VM undergoes after `NewVM`: a handler or an inline case of the dispatch
loop, ending normally or by a panic; a pass of the loop with its calls and returns; the set-up
of `ExecCode`; a call of a host function; the deferred commit of `ExecCode`; the host-side
transfers; `Restart`; `Close`; and a client setting `RecoverPanic`. -/
inductive Operation (decode : Byte → Instr) (F : FloatOps) : VM → VM → Prop where
  | instr (i : Instr) (vm : VM) : Operation decode F vm (resultVM (execInstr F i vm))
  | step (m : Machine) : Operation decode F m.vm (step decode F m).vm
  | start {fnIndex : Int} {args : List Word} {vm : VM} {m : Machine} :
      execCodeStart fnIndex args vm = .ready m → Operation decode F vm m.vm
  | startPanic {fnIndex : Int} {args : List Word} {vm vm' : VM} {e : Trap} :
      execCodeStart fnIndex args vm = .panicked e vm' → Operation decode F vm vm'
  | hostCall {vm : VM} {idx : Nat} {r : EStateM.Result Trap VM Unit} :
      HostCall vm idx r → Operation decode F vm (resultVM r)
  | commit (vm : VM) : Operation decode F vm (resultVM (commit vm))
  | readAt (p : List Byte) (off : Int) (vm : VM) :
      Operation decode F vm (resultVM (Process.readAt p off vm))
  | writeAt (p : List Byte) (off : Int) (vm : VM) :
      Operation decode F vm (resultVM (Process.writeAt p off vm))
  | restart (vm : VM) : Operation decode F vm vm.restart
  | close (vm : VM) : Operation decode F vm vm.close
  | setRecoverPanic (b : Bool) (vm : VM) : Operation decode F vm { vm with recoverPanic := b }

section Operations

variable {decode : Byte → Instr} {F : FloatOps} {vm vm' : VM}

/-- What one operation may change of what is fixed: nothing; the length of memory, as
`grow_memory` does; the abort flag, raised by a host function; or what `Restart`, `Close`, a
client setting `RecoverPanic` or the commit change. -/
theorem Operation.cases (h : Operation decode F vm vm') :
    vm'.fixed = vm.fixed ∨
    (∃ vm₁, vm₁.fixed = vm.fixed ∧ vm₁.memory = vm.memory ∧ vm' = resultVM (growMemory vm₁)) ∨
    ((∃ idx r, HostCall vm idx r ∧ vm' = resultVM r) ∧
      vm'.fixed = { vm.fixed with abort := true }) ∨
    vm' = vm.restart ∨ vm' = vm.close ∨ (∃ b, vm' = { vm with recoverPanic := b }) ∨
    vm' = resultVM (Wagon.commit vm) := by
  cases h with
  | instr i vm =>
    rcases execInstr_cases F i vm with h | ⟨h, -⟩
    · exact .inl h
    · exact .inr (.inl ⟨vm, rfl, rfl, h⟩)
  | step m => exact (step_cases decode F m).imp_right .inl
  | start h => exact .inl (execCodeStart_fixed.1 _ h)
  | startPanic h => exact .inl (execCodeStart_fixed.2 _ _ h)
  | hostCall h =>
    rcases h.raised with h' | h'
    · exact .inl h'
    · exact .inr (.inr (.inl ⟨⟨_, _, h, rfl⟩, h'⟩))
  | commit vm => exact .inr (.inr (.inr (.inr (.inr (.inr rfl)))))
  | readAt p off vm => exact .inl (readAt_keepsFixed p off vm)
  | writeAt p off vm => exact .inl (writeAt_keepsFixed p off vm)
  | restart vm => exact .inr (.inr (.inr (.inl rfl)))
  | close vm => exact .inr (.inr (.inr (.inr (.inl rfl))))
  | setRecoverPanic b vm => exact .inr (.inr (.inr (.inr (.inr (.inl ⟨b, rfl⟩)))))

theorem Operation.of_step {m : Machine} {o : Outcome} (hs : Wagon.step decode F m = o) :
    Operation decode F m.vm o.vm :=
  hs ▸ .step m

/-- The passes of a run, host calls included, are operations. -/
theorem Steps.operations {m : Machine} {o : Outcome} (h : Steps decode F m o) :
    Relation.ReflTransGen (Operation decode F) m.vm o.vm := by
  induction h with
  | refl => exact .refl
  | head hs _ ih => exact .head (.of_step hs) ih
  | last hs => exact .single (.of_step hs)
  | host hs hc _ ih => exact .head (.of_step hs) (.head (.hostCall hc) ih)
  | hostPanic hs hc => exact .head (.of_step hs) (.single (.hostCall hc))

/-- A call of `ExecCode` is a sequence of operations, from the VM it is called on to the VM it
leaves. -/
theorem ExecCodeRun.operations {fnIndex : Int} {args : List Word} {r : ExecResult}
    (h : ExecCodeRun decode F vm fnIndex args r vm') :
    Relation.ReflTransGen (Operation decode F) vm vm' := by
  cases h with
  | refused _ => exact .refl
  | panickedAtStart h => exact .single (.startPanic h)
  | trapped hm hs => exact .head (.start hm) hs.operations
  | finished hm hs =>
    refine .trans (.head (.start hm) hs.operations) ?_
    unfold execCodeLeaves
    split
    · exact .refl
    · exact .single (.commit _)

end Operations

end Wagon
