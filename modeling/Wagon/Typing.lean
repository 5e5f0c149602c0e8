import Wagon.Dispatch

/-! # Slot types

A slot of the operand stack, a local or a global holds an untyped 64-bit word; the type of
the value in it is carried by the program. These are the types a validated program gives
the slots at every pass of the loop, computed alongside a run: each rule checks the types of
the slots the pass reads, as validation guarantees, and gives the types after it (`none`
where validation would reject the program). A run whose every pass is accepted is a run of
a validated program.

The rules read what validation knows statically from the machine they type: immediates, the
branch tables and the callee of a call, read as the pass reads them. The condition of `JMP_NZ` decides which of the two
stack shapes of the lowered code follows it, so that rule reads it too. Where a pass traps
the types after it are never used, and the rules keep the old ones. -/

namespace Wagon

def Load.type : Load → ValueType
  | .i32Load | .i32Load8s | .i32Load8u | .i32Load16s | .i32Load16u => .i32
  | .i64Load | .i64Load8s | .i64Load8u | .i64Load16s | .i64Load16u | .i64Load32s
  | .i64Load32u => .i64
  | .f32Load => .f32
  | .f64Load => .f64

def Store.type : Store → ValueType
  | .f32Store => .f32
  | .f64Store => .f64
  | .i32Store | .i32Store8 | .i32Store16 => .i32
  | .i64Store | .i64Store8 | .i64Store16 | .i64Store32 => .i64

/-- The types of the operand stack (top first), the locals and the globals. -/
structure SlotTypes where
  stack : List ValueType
  locals : List ValueType
  globals : List ValueType
  deriving DecidableEq, Repr

/-- Pop the types `ins`, top first, and push `outs`; `none` unless `ins` are on top. -/
def SlotTypes.popPush (T : SlotTypes) (ins outs : List ValueType) : Option SlotTypes :=
  if T.stack.take ins.length = ins then some { T with stack := outs ++ T.stack.drop ins.length }
  else none

theorem SlotTypes.popPush_eq_some {T T' : SlotTypes} {ins outs : List ValueType} :
    T.popPush ins outs = some T' ↔
      ∃ st, T.stack = ins ++ st ∧ T' = { T with stack := outs ++ st } := by
  unfold popPush
  constructor
  · intro h
    split at h
    · rename_i hs
      refine ⟨_, ?_, (Option.some.inj h).symm⟩
      conv_lhs => rw [← List.take_append_drop ins.length T.stack, hs]
    · cases h
  · rintro ⟨st, hs, rfl⟩
    simp [hs]

def Exec.peek {α : Type} (x : Exec α) (vm : VM) : Option α :=
  match x vm with
  | .ok a _ => some a
  | .error _ _ => none

section Peek

variable {α β : Type} {x : Exec α} {vm vm' : VM} {a : α}

theorem Exec.peek_eq_some : x.peek vm = some a ↔ ∃ vm', x vm = .ok a vm' := by
  unfold Exec.peek
  split <;> simp_all

theorem Exec.peek_of_error {e : Trap} (h : x vm = .error e vm') : x.peek vm = none := by
  simp [Exec.peek, h]

theorem Exec.peek_bind {f : α → Exec β} (h : x vm = .ok a vm') : (x >>= f).peek vm = (f a).peek vm' := by
  simp only [Exec.peek, bind_ok h]

end Peek

/-- The type of the variable a variable operator names by its index immediate. -/
def varType (vars : List ValueType) (vm : VM) : Option ValueType :=
  (fetchUint32.peek vm).bind fun i => vars[i.toNat]?

/-- The type rule of a `funcTable` handler, run on `vm` after its opcode. -/
def Op.types (o : Op) (vm : VM) (T : SlotTypes) : Option SlotTypes :=
  match o with
  | .int o => T.popPush o.sig.1 o.sig.2
  | .float o => T.popPush o.sig.1 o.sig.2
  | .conv o => T.popPush o.sig.1 o.sig.2
  | .load l => T.popPush [.i32] [l.type]
  | .store s => T.popPush [s.type, .i32] []
  | .currentMemory => T.popPush [] [.i32]
  | .growMemory => T.popPush [.i32] [.i32]
  | .getLocal => (varType T.locals vm).bind fun t => T.popPush [] [t]
  | .setLocal => (varType T.locals vm).bind fun t => T.popPush [t] []
  | .teeLocal => (varType T.locals vm).bind fun t => T.popPush [t] [t]
  | .getGlobal => (varType T.globals vm).bind fun t => T.popPush [] [t]
  | .setGlobal => (varType T.globals vm).bind fun t => T.popPush [t] []
  | .i32Const => T.popPush [] [.i32]
  | .i64Const => T.popPush [] [.i64]
  | .f32Const => T.popPush [] [.f32]
  | .f64Const => T.popPush [] [.f64]
  | .drop => T.stack.head?.bind fun t => T.popPush [t] []
  | .selectOp => T.stack[1]?.bind fun t => T.popPush [.i32, t, t] [t]
  | .unreachable | .nop => some T

structure CtxTypes where
  stack : List ValueType
  locals : List ValueType
  deriving DecidableEq, Repr

/-- The types of the running body's slots and the globals, and those of each suspended
caller, innermost first. -/
structure Typing where
  slots : SlotTypes
  frames : List CtxTypes
  deriving DecidableEq, Repr

/-- The stack types after a taken branch: the top kept if asked, `n` slots discarded. A
negative `n`, which Go would reslice into spare capacity, is refused. -/
def branchTypes (preserveTop : Bool) (n : Word) (st : List ValueType) : Option (List ValueType) :=
  if n.toInt < 0 then none
  else some (if preserveTop then st.take 1 ++ st.drop n.toInt.toNat else st.drop n.toInt.toNat)

theorem branchTypes_eq_some {preserveTop : Bool} {n : Word} {st st' : List ValueType} :
    branchTypes preserveTop n st = some st' ↔ 0 ≤ n.toInt ∧
      st' = if preserveTop then st.take 1 ++ st.drop n.toInt.toNat else st.drop n.toInt.toNat := by
  unfold branchTypes
  split <;> simp_all [eq_comm]

def jmpNzArgs : Exec (Bool × Word × BitVec 32) := do
  let _ ← fetchInt64
  let preserveTop ← fetchBool
  let discard ← fetchInt64
  let cond ← popUint32
  pure (preserveTop, discard, cond)

def brTableArgs : Exec Target := do
  let index ← fetchInt64
  let label ← popInt32
  let cf ← curCompiled
  let table ← goIndexInt cf.branchTables index.toInt
  pure (brTableTarget table label)

section Rules

-- The declared types of each function's locals after its parameters, and the function
-- `ExecCode` runs.
variable (decl : Nat → List ValueType) (entry : Int)

/-- Entering compiled function `idx`: the arguments, taken off the caller's stack, and the
declared locals are the callee's locals; the caller's stack and locals are saved. -/
def callTypes (Γ : Typing) (idx : Nat) (vm : VM) : Option Typing :=
  match vm.funcs[idx]? with
  | some (.compiled f) =>
    if f.args ≤ Γ.slots.stack.length ∧ (decl idx).length = f.totalLocalVars - f.args then
      some ⟨⟨[], (Γ.slots.stack.take f.args).reverse ++ decl idx, Γ.slots.globals⟩,
        ⟨Γ.slots.stack.drop f.args, Γ.slots.locals⟩ :: Γ.frames⟩
    else none
  | _ => some Γ

/-- Leaving a body: its value, if it returns one, is its top slot; it goes on the caller's
stack, or, leaving the entry body, must have the entry function's declared result type. -/
def exitTypes (Γ : Typing) (returns : Bool) (module : Module) : Option Typing :=
  let ret := if returns then Γ.slots.stack.take 1 else []
  match Γ.frames with
  | [] =>
    if returns → ((getFunction module entry).bind fun fn => fn.sig.returnTypes.head?) =
        Γ.slots.stack.head? then
      some ⟨{ Γ.slots with stack := ret }, []⟩
    else none
  | fr :: frs => some ⟨⟨ret ++ fr.stack, fr.locals, Γ.slots.globals⟩, frs⟩

/-- The type rule of one case of the `execCode` switch, run on `vm` after the opcode. -/
def instrTypes (Γ : Typing) (returns : Bool) (i : Instr) (vm : VM) : Option Typing :=
  let T := Γ.slots
  let withSlots (T' : SlotTypes) : Typing := { Γ with slots := T' }
  match i with
  | .return => exitTypes entry Γ returns vm.module
  | .jmp => some Γ
  | .jmpZ => (T.popPush [.i32] []).map withSlots
  | .jmpNz =>
    (T.popPush [.i32] []).bind fun T' =>
      match jmpNzArgs.peek vm with
      | some (preserveTop, discard, cond) =>
        if cond != 0 then
          (branchTypes preserveTop discard T'.stack).map fun st => withSlots { T' with stack := st }
        else some (withSlots T')
      | none => some Γ
  | .brTable =>
    (T.popPush [.i32] []).bind fun T' =>
      match brTableArgs vm with
      | .ok target vm' =>
        if target.return then exitTypes entry (withSlots T') returns vm'.module
        else (branchTypes target.preserveTop target.discard T'.stack).map fun st =>
          withSlots { T' with stack := st }
      | .error _ _ => some Γ
  | .discard =>
    (fetchInt64.peek vm).elim (some Γ) fun n =>
      (branchTypes false n T.stack).map fun st => withSlots { T with stack := st }
  | .discardPreserveTop =>
    (fetchInt64.peek vm).elim (some Γ) fun n =>
      (branchTypes true n T.stack).map fun st => withSlots { T with stack := st }
  | .call =>
    match call vm with
    | .ok idx vm' => callTypes decl Γ idx vm'
    | .error _ _ => some Γ
  | .callIndirect =>
    (T.popPush [.i32] []).bind fun T' =>
      match callIndirect vm with
      | .ok idx vm' => callTypes decl (withSlots T') idx vm'
      | .error _ _ => some Γ
  | .op o => (o.types vm T).map withSlots
  | .nilEntry => some Γ

variable (decode : Byte → Instr)

def stepTypes (Γ : Typing) (m : Machine) : Option Typing :=
  if m.vm.ctx.pc < m.vm.ctx.code.length ∧ m.vm.abort = false then
    match fetchInt8 m.vm with
    | .ok op vm => instrTypes decl entry Γ m.returns (decode op) vm
    | .error _ _ => some Γ
  else exitTypes entry Γ m.returns m.vm.module

/-- The types after `n` passes from `m`, if the rules accept each of them. -/
def runTypes (F : FloatOps) : Nat → Typing → Machine → Option Typing
  | 0, Γ, _ => some Γ
  | n + 1, Γ, m =>
    (stepTypes decl entry decode Γ m).bind fun Γ' =>
      match step decode F m with
      | .running m' => runTypes F n Γ' m'
      | _ => some Γ'

/-- The types `ExecCode` starts the entry body with: an empty stack, the parameters and the
declared locals, and the types `G` of the globals. -/
def entryTypes (G : List ValueType) (vm : VM) : Option Typing :=
  match getFunction vm.module entry, (if entry < 0 then none else vm.funcs[entry.toNat]?) with
  | some fn, some (.compiled f) =>
    if (decl entry.toNat).length = f.totalLocalVars - fn.sig.paramTypes.length then
      some ⟨⟨[], fn.sig.paramTypes ++ decl entry.toNat, G⟩, []⟩
    else none
  | _, _ => none

end Rules

section Globals

variable {decl : Nat → List ValueType} {entry : Int} {Γ Γ' : Typing}

theorem SlotTypes.popPush_vars {T T' : SlotTypes} {ins outs : List ValueType}
    (h : T.popPush ins outs = some T') : T'.locals = T.locals ∧ T'.globals = T.globals := by
  obtain ⟨_, _, rfl⟩ := popPush_eq_some.1 h
  exact ⟨rfl, rfl⟩

theorem Op.types_vars {o : Op} {vm : VM} {T T' : SlotTypes} (h : o.types vm T = some T') :
    T'.locals = T.locals ∧ T'.globals = T.globals := by
  cases o <;> simp only [Op.types, Option.bind_eq_some] at h <;>
    first
    | exact SlotTypes.popPush_vars h
    | (obtain ⟨_, _, h⟩ := h; exact SlotTypes.popPush_vars h)
    | (cases h; exact ⟨rfl, rfl⟩)

theorem callTypes_globals {idx : Nat} {vm : VM} (h : callTypes decl Γ idx vm = some Γ') :
    Γ'.slots.globals = Γ.slots.globals := by
  unfold callTypes at h
  split at h
  · split at h
    · cases h; rfl
    · cases h
  · cases h; rfl

theorem exitTypes_globals {returns : Bool} {module : Module}
    (h : exitTypes entry Γ returns module = some Γ') : Γ'.slots.globals = Γ.slots.globals := by
  unfold exitTypes at h
  cases hf : Γ.frames <;> simp only [hf] at h
  · split at h
    · cases h; rfl
    · cases h
  · cases h; rfl

theorem instrTypes_globals {returns : Bool} {i : Instr} {vm : VM}
    (h : instrTypes decl entry Γ returns i vm = some Γ') : Γ'.slots.globals = Γ.slots.globals := by
  cases i with
  | «return» => exact exitTypes_globals h
  | jmp | nilEntry => cases h; rfl
  | jmpZ =>
    obtain ⟨T', hT, rfl⟩ := Option.map_eq_some'.1 h
    exact (SlotTypes.popPush_vars hT).2
  | jmpNz =>
    obtain ⟨T', hT, h⟩ := Option.bind_eq_some.1 h
    split at h
    · split at h
      · obtain ⟨_, -, rfl⟩ := Option.map_eq_some'.1 h
        exact (SlotTypes.popPush_vars hT).2
      · cases h; exact (SlotTypes.popPush_vars hT).2
    · cases h; rfl
  | brTable =>
    obtain ⟨T', hT, h⟩ := Option.bind_eq_some.1 h
    split at h
    · split at h
      · exact (exitTypes_globals h).trans (SlotTypes.popPush_vars hT).2
      · obtain ⟨_, -, rfl⟩ := Option.map_eq_some'.1 h
        exact (SlotTypes.popPush_vars hT).2
    · cases h; rfl
  | discard | discardPreserveTop =>
    cases hp : fetchInt64.peek vm <;> simp only [instrTypes, hp, Option.elim] at h
    · cases h; rfl
    · obtain ⟨_, -, rfl⟩ := Option.map_eq_some'.1 h; rfl
  | call =>
    dsimp only [instrTypes] at h
    split at h
    · exact callTypes_globals h
    · cases h; rfl
  | callIndirect =>
    obtain ⟨T', hT, h⟩ := Option.bind_eq_some.1 h
    split at h
    · exact (callTypes_globals h).trans (SlotTypes.popPush_vars hT).2
    · cases h; rfl
  | op o =>
    obtain ⟨T', hT, rfl⟩ := Option.map_eq_some'.1 h
    exact (Op.types_vars hT).2

theorem stepTypes_globals {decode : Byte → Instr} {m : Machine}
    (h : stepTypes decl entry decode Γ m = some Γ') : Γ'.slots.globals = Γ.slots.globals := by
  unfold stepTypes at h
  split at h
  · split at h
    · exact instrTypes_globals h
    · cases h; rfl
  · exact exitTypes_globals h

end Globals

end Wagon
