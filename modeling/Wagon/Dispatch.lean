import Wagon.Float
import Wagon.Variable
import Wagon.Call
import Wagon.Process

/-! # The dispatch loop

`execCode` reads an opcode, runs the control operators inline and every other opcode
through `funcTable`. The table `newFuncTable` and the opcode constants of `ops` and
`compile` are not part of the sources, so the decoding of a byte is a parameter `decode`.

Calls re-enter the loop in Go; here an explicit stack of suspended callers replaces the
host-language stack, as the spec allows. The bodies of `compiledFunction.call` and
`goFunction.call` are not in the sources either and are modelled from the spec's description
of the call machinery: a host function pops its parameters, uses its `Process` handle any
number of times and pushes its results. Native execution (`WagonNativeExec`) is not
modelled. -/

namespace Wagon

/-- The handlers `funcTable` holds, apart from the two calls. -/
inductive Op where
  | int (o : IntOp)
  | float (o : FloatOp)
  | conv (o : ConvOp)
  | load (l : Load)
  | store (s : Store)
  | currentMemory | growMemory
  | getLocal | setLocal | teeLocal | getGlobal | setGlobal
  | i32Const | i64Const | f32Const | f64Const
  | drop | selectOp | unreachable | nop

def Op.handler (F : FloatOps) : Op → Exec Unit
  | .int o => o.handler
  | .float o => o.handler F
  | .conv o => o.handler F
  | .load l => l.handler
  | .store s => s.handler
  | .currentMemory => Wagon.currentMemory
  | .growMemory => Wagon.growMemory
  | .getLocal => Wagon.getLocal
  | .setLocal => Wagon.setLocal
  | .teeLocal => Wagon.teeLocal
  | .getGlobal => Wagon.getGlobal
  | .setGlobal => Wagon.setGlobal
  | .i32Const => Wagon.i32Const
  | .i64Const => Wagon.i64Const
  | .f32Const => Wagon.f32Const
  | .f64Const => Wagon.f64Const
  | .drop => Wagon.drop
  | .selectOp => Wagon.selectOp
  | .unreachable => Wagon.unreachable
  | .nop => Wagon.nop

/-- What `execCode` does with an opcode byte: a case of its switch, or the `funcTable`
entry, which may never have been set. -/
inductive Instr where
  | «return» | jmp | jmpZ | jmpNz | brTable | discard | discardPreserveTop
  | call | callIndirect
  | op (o : Op)
  | nilEntry

structure Frame where
  caller : Context
  returns : Bool

/-- The VM, whether the running body returns a value (`compiled.returns` of `execCode`),
and the suspended callers, innermost first. -/
structure Machine where
  vm : VM
  returns : Bool
  frames : List Frame

inductive Outcome where
  | running (m : Machine)
  | trapped (e : Trap) (vm : VM)
  /-- The entry body's `execCode` returned `res`. -/
  | finished (vm : VM) (res : Word)
  /-- A call of the host function `vm.funcs[idx]`. -/
  | host (idx : Nat) (m : Machine)

def Outcome.vm : Outcome → VM
  | .running m => m.vm
  | .trapped _ vm => vm
  | .finished vm _ => vm
  | .host _ m => m.vm

inductive Signal where
  | next | exit
  | invoke (idx : Nat)

/-- `s[i]` for an `int` index. -/
def goIndexInt {α : Type} (s : List α) (i : Int) : Exec α :=
  if i < 0 then throw .indexOutOfRange else goIndex s i.toNat

def setPc (target : Word) : Exec Unit := modify fun vm => { vm with ctx.pc := target.toInt }

/-- `vm.ctx.stack = vm.ctx.stack[:len(vm.ctx.stack)-int(n)]`. Go panics for a negative new
length. A negative count would reslice into the stack's spare capacity, which the model
keeps no slots of and treats as a panic; the type rules refuse such a count. -/
def discardTop (n : Word) : Exec Unit := fun vm =>
  if 0 ≤ n.toInt ∧ n.toInt ≤ vm.ctx.stack.items.length then
    .ok () { vm with ctx.stack := vm.ctx.stack.drop n.toInt.toNat }
  else .error .sliceBoundsOutOfRange vm

/-- The stack update of a taken `JMP_NZ` and of `br_table`: keep the top if asked, discard
`discard` slots, and push the kept top back. -/
def branchDiscard (preserveTop : Bool) (discard : Word) : Exec Unit :=
  if preserveTop then do
    let top ← stackTop
    discardTop discard
    pushUint64 top
  else discardTop discard

/-- `cf, ok := vm.funcs[vm.ctx.curFunc].(compiledFunction)`, panicking unless `ok`. -/
def curCompiled : Exec CompiledFunction := do
  match ← goIndexInt (← get).funcs (← get).ctx.curFunc with
  | .compiled f => pure f
  | .host _ => throw .notCompiledFunction

def brTableTarget (table : BranchTable) (label : BitVec 32) : Target :=
  if 0 ≤ label.toInt ∧ label.toInt < (BitVec.ofNat 32 table.targets.length).toInt then
    table.targets.getD label.toNat table.defaultTarget
  else table.defaultTarget

/-- On tables of fewer than `2^31` targets, the signed comparisons of `br_table` pick target
`label` exactly when `label`, read unsigned, indexes the table, and the default otherwise. -/
theorem brTableTarget_eq_getD (table : BranchTable) (label : BitVec 32)
    (h : table.targets.length < 2 ^ 31) :
    brTableTarget table label = table.targets.getD label.toNat table.defaultTarget := by
  have hl : (BitVec.ofNat 32 table.targets.length).toInt = table.targets.length := by
    rw [BitVec.toInt_eq_toNat_cond, BitVec.toNat_ofNat, Nat.mod_eq_of_lt (by omega),
      if_pos (by omega)]
  have hb := label.isLt
  unfold brTableTarget
  rw [hl, BitVec.toInt_eq_toNat_cond]
  by_cases hlt : label.toNat < table.targets.length
  · rw [if_pos (by split <;> omega)]
  · rw [if_neg (by split <;> omega), List.getD_eq_getElem?_getD, List.getElem?_eq_none (by omega),
      Option.getD_none]

/-- The label `-1` of `br_table`, read unsigned, is past every table: it takes the default. -/
theorem brTableTarget_of_negative_label :
    let t : Target := ⟨7, 0, false, false⟩
    let d : Target := ⟨9, 0, false, false⟩
    brTableTarget ⟨[t, t], d⟩ 0xFFFFFFFF = d := by
  intro t d
  exact (brTableTarget_eq_getD ⟨[t, t], d⟩ 0xFFFFFFFF (by decide)).trans rfl

/-- The case of the `execCode` switch for one decoded opcode, after the opcode byte. -/
def execInstr (F : FloatOps) : Instr → Exec Signal
  | .return => pure .exit
  | .jmp => do
    setPc (← fetchInt64)
    pure .next
  | .jmpZ => do
    let target ← fetchInt64
    let cond := (← popUint32) == 0
    if cond then setPc target
    pure .next
  | .jmpNz => do
    let target ← fetchInt64
    let preserveTop ← fetchBool
    let discard ← fetchInt64
    let cond := (← popUint32) != 0
    if cond then
      setPc target
      branchDiscard preserveTop discard
    pure .next
  | .brTable => do
    let index ← fetchInt64
    let label ← popInt32
    let cf ← curCompiled
    let table ← goIndexInt cf.branchTables index.toInt
    let target := brTableTarget table label
    if target.return then pure .exit
    else do
      setPc target.addr
      branchDiscard target.preserveTop target.discard
      pure .next
  | .discard => do
    discardTop (← fetchInt64)
    pure .next
  | .discardPreserveTop => do
    let top ← stackTop
    discardTop (← fetchInt64)
    pushUint64 top
    pure .next
  | .call => .invoke <$> call
  | .callIndirect => .invoke <$> callIndirect
  | .op o => do
    o.handler F
    pure .next
  | .nilEntry => throw .nilFuncTableEntry

def loopBody (decode : Byte → Instr) (F : FloatOps) : Exec Signal := do
  let op ← fetchInt8
  execInstr F (decode op)

/-- `for i := n - 1; i >= 0; i-- { locals[i] = vm.popUint64() }`: the arguments in order,
the last one popped first. -/
def popArgs : Nat → Exec (List Word)
  | 0 => pure []
  | n + 1 => do
    let v ← popUint64
    let vs ← popArgs n
    pure (vs ++ [v])

/-- Modelled from the spec: the call of a compiled function saves the caller's context,
copies the arguments off the stack into the prefix of zeroed locals, and starts the callee
at `pc = 0` on a fresh stack sized to its maximum depth plus one. -/
def Machine.enter (m : Machine) (idx : Nat) (f : CompiledFunction) (args : List Word) (vm : VM) :
    Machine where
  vm := { vm with
    ctx := { stack := ⟨[], f.maxDepth + 1, Nat.zero_le _⟩
             locals := args ++ List.replicate (f.totalLocalVars - f.args) 0
             code := f.code, pc := 0, curFunc := idx } }
  returns := f.returns
  frames := ⟨vm.ctx, m.returns⟩ :: m.frames

/-- `vm.funcs[idx].call(vm, idx)` for a compiled function; a host function's call is made
by `HostCall`. -/
def invoke (idx : Nat) (m : Machine) : Outcome :=
  match m.vm.funcs[idx]? with
  | none => .trapped .indexOutOfRange m.vm
  | some (.host _) => .host idx m
  | some (.compiled f) =>
    match popArgs f.args m.vm with
    | .ok args vm => .running (m.enter idx f args vm)
    | .error e vm => .trapped e vm

/-- `goFunction.call(vm, idx)` of a host function of type `typ`: pop its parameters, run its
`body` of `Process` calls and push its `results`. -/
def goFunctionCall (typ : FuncType) (body : List HostOp) (results : List Word) : Exec Unit := do
  let _ ← popArgs typ.paramTypes.length
  body.forM HostOp.run
  results.forM pushUint64

/-- The calls of the host function `vm.funcs[idx]` and how they end: any body of `Process`
calls, and any results of the declared arity. -/
inductive HostCall (vm : VM) (idx : Nat) : EStateM.Result Trap VM Unit → Prop where
  | call {typ : FuncType} (body : List HostOp) (results : List Word) :
      vm.funcs[idx]? = some (.host typ) → results.length = typ.returnTypes.length →
      HostCall vm idx (goFunctionCall typ body results vm)

/-- What `execCode` returns once its loop ends: the top slot of a body that returns a
value, `0` otherwise. -/
def execResult (m : Machine) : Except Trap Word :=
  if m.returns then
    match m.vm.ctx.stack.items with
    | v :: _ => .ok v
    | [] => .error .indexOutOfRange
  else .ok 0

/-- The end of `execCode`. Modelled from the spec for a callee: the caller's context comes
back with the callee's value, if any, pushed on its stack. -/
def finish (m : Machine) : Outcome :=
  match execResult m, m.frames with
  | .error e, _ => .trapped e m.vm
  | .ok res, [] => .finished m.vm res
  | .ok res, fr :: frs =>
    let vm := { m.vm with ctx := fr.caller }
    if m.returns then
      match pushUint64 res vm with
      | .ok _ vm' => .running ⟨vm', fr.returns, frs⟩
      | .error e vm' => .trapped e vm'
    else .running ⟨vm, fr.returns, frs⟩

def Machine.afterPass (m : Machine) : EStateM.Result Trap VM Signal → Outcome
  | .ok .next vm => .running { m with vm }
  | .ok .exit vm => finish { m with vm }
  | .ok (.invoke idx) vm => invoke idx { m with vm }
  | .error e vm => .trapped e vm

section Run

variable (decode : Byte → Instr) (F : FloatOps)

/-- One iteration of the `execCode` loop, including its guard. -/
def step (m : Machine) : Outcome :=
  if m.vm.ctx.pc < m.vm.ctx.code.length ∧ m.vm.abort = false then
    match loopBody decode F m.vm with
    | .ok .next vm => .running { m with vm }
    | .ok .exit vm => finish { m with vm }
    | .ok (.invoke idx) vm => invoke idx { m with vm }
    | .error e vm => .trapped e vm
  else finish m

/-- A pass on opcode `op` runs the case of `decode op` after the opcode byte. -/
theorem step_of_opcode {m : Machine} {op : Byte} (ha : m.vm.abort = false)
    (hop : codeAt m.vm.ctx.code m.vm.ctx.pc 1 = some [op]) :
    step decode F m = m.afterPass (execInstr F (decode op) (m.vm.skip 1)) := by
  have hg : m.vm.ctx.pc < m.vm.ctx.code.length := by
    unfold codeAt at hop
    split at hop
    · omega
    · cases hop
  rw [step, if_pos ⟨hg, ha⟩, loopBody, bind_ok (fetchInt8_ok hop), leValue_singleton,
    BitVec.ofNat_toNat, BitVec.setWidth_eq]
  rfl

/-- Runs of the loop: a machine reaches every outcome its passes lead to, the calls of host
functions included. -/
inductive Steps : Machine → Outcome → Prop where
  | refl (m : Machine) : Steps m (.running m)
  | head {m m' : Machine} {o : Outcome} : step decode F m = .running m' → Steps m' o → Steps m o
  | last {m : Machine} {o : Outcome} : step decode F m = o → Steps m o
  /-- A pass calls a host function, which returns; the loop goes on. -/
  | host {m m' : Machine} {idx : Nat} {vm : VM} {o : Outcome} : step decode F m = .host idx m' →
      HostCall m'.vm idx (.ok () vm) → Steps { m' with vm } o → Steps m o
  /-- A pass calls a host function, which panics. -/
  | hostPanic {m m' : Machine} {idx : Nat} {e : Trap} {vm : VM} : step decode F m = .host idx m' →
      HostCall m'.vm idx (.error e vm) → Steps m (.trapped e vm)

/-- `n` passes of the loop from `m`, or the outcome of the first pass that leaves it. -/
def run : Nat → Machine → Outcome
  | 0, m => .running m
  | n + 1, m =>
    match step decode F m with
    | .running m' => run n m'
    | o => o

end Run

/-- `vm.module.GetFunction(i)`: `nil` outside the function index space. -/
def getFunction (module : Module) (i : Int) : Option ModuleFunction :=
  if i < 0 then none else module.functionIndexSpace[i.toNat]?

/-- The errors `ExecCode` returns; a recovered panic is returned as its error. -/
inductive ExecError where
  | invalidFunctionIndex (i : Int)
  | invalidArgumentCount
  | panic (e : Trap)

inductive Start where
  /-- An error returned by the checks, with the VM untouched. -/
  | refused (err : ExecError)
  | panicked (e : Trap) (vm : VM)
  | ready (m : Machine)

/-- `ExecCode` up to `vm.execCode(compiled)`: the index and argument checks, then a fresh
context for the entry body, reusing the stack's capacity when it is large enough. -/
def execCodeStart (fnIndex : Int) (args : List Word) (vm : VM) : Start :=
  if (vm.funcs.length : Int) < fnIndex then .refused (.invalidFunctionIndex fnIndex)
  else match getFunction vm.module fnIndex with
  | none => .panicked .nilPointerDereference vm
  | some fn =>
    if fn.sig.paramTypes.length ≠ args.length then .refused .invalidArgumentCount
    else match (if fnIndex < 0 then none else vm.funcs[fnIndex.toNat]?) with
    | none => .panicked .indexOutOfRange vm
    | some (.host _) => .panicked .notCompiledFunction vm
    | some (.compiled f) =>
      let ctx : Context :=
        { stack := ⟨[], max vm.ctx.stack.cap (f.maxDepth + 1), Nat.zero_le _⟩
          locals := List.replicate f.totalLocalVars 0, code := f.code, pc := 0, curFunc := fnIndex }
      if f.totalLocalVars < args.length then
        .panicked .indexOutOfRange { vm with ctx := { ctx with locals := args.take f.totalLocalVars } }
      else
        .ready ⟨{ vm with ctx := { ctx with
          locals := args ++ List.replicate (f.totalLocalVars - args.length) 0 } }, f.returns, []⟩

inductive Value where
  | i32 (v : BitVec 32)
  | i64 (v : Word)
  | f32 (v : BitVec 32)
  | f64 (v : Word)

def convertResult : ValueType → Word → Value
  | .i32, res => .i32 (res.setWidth 32)
  | .i64, res => .i64 res
  | .f32, res => .f32 (res.setWidth 32)
  | .f64, res => .f64 res

inductive ExecResult where
  /-- `ExecCode` returned `(rtrn, err)`. -/
  | returned (rtrn : Option Value) (err : Option ExecError)
  /-- A panic left `ExecCode`, which recovers only with `RecoverPanic` set. -/
  | crashed (e : Trap)

/-- A panic inside `ExecCode`: returned as the error under `RecoverPanic`, else uncaught;
`rtrn` is still unset. -/
def ExecResult.ofPanic (vm : VM) (e : Trap) : ExecResult :=
  if vm.recoverPanic then .returned none (some (.panic e)) else .crashed e

/-- `rtrn` from `execCode`'s result `res`; reading the result type of an entry function
that declares none panics. -/
def returnValue (fnIndex : Int) (returns : Bool) (vm : VM) (res : Word) :
    Except Trap (Option Value) :=
  if returns then
    match (getFunction vm.module fnIndex).bind fun fn => fn.sig.returnTypes.head? with
    | some t => .ok (some (convertResult t res))
    | none => .error .indexOutOfRange
  else .ok none

/-- `vm.PgTx.Commit()`: the `nil` transaction of a VM without a database is dereferenced,
and pgx refuses a transaction already committed with `ErrTxClosed`. -/
def commit : Exec Unit := fun vm =>
  match vm.pgTx with
  | .nil => .error .nilPointerDereference vm
  | .inProgress => .ok () { vm with pgTx := .committed }
  | .committed => .error .txClosed vm

/-- `ExecCode` after `execCode` returned `res`: the result conversion, then the deferred
commit, whose error `ExecCode` panics with; `rtrn` is set by then. -/
def execCodeEnd (fnIndex : Int) (returns : Bool) (vm : VM) (res : Word) : ExecResult :=
  match returnValue fnIndex returns vm res with
  | .error e => .ofPanic vm e
  | .ok rtrn =>
    match commit vm with
    | .ok () _ => .returned rtrn none
    | .error e _ => if vm.recoverPanic then .returned rtrn (some (.panic e)) else .crashed e

/-- The VM `ExecCode` leaves after `execCode` returned: the commit runs only once the result
is converted. -/
def execCodeLeaves (fnIndex : Int) (returns : Bool) (vm : VM) (res : Word) : VM :=
  match returnValue fnIndex returns vm res with
  | .error _ => vm
  | .ok _ => resultVM (commit vm)

section ExecCode

variable (decode : Byte → Instr) (F : FloatOps)

/-- `ExecCode(fnIndex, args...)` on `vm` ends with `r` and leaves the VM `vm'`. -/
inductive ExecCodeRun (vm : VM) (fnIndex : Int) (args : List Word) : ExecResult → VM → Prop where
  | refused {err : ExecError} : execCodeStart fnIndex args vm = .refused err →
      ExecCodeRun vm fnIndex args (.returned none (some err)) vm
  | panickedAtStart {e : Trap} {vm' : VM} : execCodeStart fnIndex args vm = .panicked e vm' →
      ExecCodeRun vm fnIndex args (.ofPanic vm' e) vm'
  | trapped {m : Machine} {e : Trap} {vm' : VM} : execCodeStart fnIndex args vm = .ready m →
      Steps decode F m (.trapped e vm') → ExecCodeRun vm fnIndex args (.ofPanic vm' e) vm'
  | finished {m : Machine} {vm' : VM} {res : Word} : execCodeStart fnIndex args vm = .ready m →
      Steps decode F m (.finished vm' res) →
      ExecCodeRun vm fnIndex args (execCodeEnd fnIndex m.returns vm' res)
        (execCodeLeaves fnIndex m.returns vm' res)

def ExecCode (vm : VM) (fnIndex : Int) (args : List Word) (r : ExecResult) : Prop :=
  ∃ vm', ExecCodeRun decode F vm fnIndex args r vm'

end ExecCode

end Wagon
