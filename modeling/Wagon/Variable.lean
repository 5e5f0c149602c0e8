import Wagon.Machine

/-! # Variables, constants and the parametric operators

`get_local` and the other variable handlers, the constant pushes, `drop`, `select`,
`unreachable` and `nop`. Indexing locals or globals out of range panics, as Go's slice
indexing does. -/

namespace Wagon

def VM.withLocals (vm : VM) (l : List Word) : VM := { vm with ctx.locals := l }

def VM.withGlobals (vm : VM) (g : List Word) : VM := { vm with globals := g }

@[simp] theorem VM.withLocals_memory (vm : VM) (l : List Word) : (vm.withLocals l).memory = vm.memory :=
  rfl
@[simp] theorem VM.withGlobals_memory (vm : VM) (g : List Word) :
    (vm.withGlobals g).memory = vm.memory := rfl

/-- `s[i] = v`: Go panics when `i` is out of range. -/
def goSet (s : List Word) (i : Nat) (v : Word) : Exec (List Word) := fun vm =>
  if i < s.length then .ok (s.set i v) vm else .error .indexOutOfRange vm

def getLocal : Exec Unit := do
  let index ← fetchUint32
  let val ← goIndex (← get).ctx.locals index.toNat
  pushUint64 val

def setLocal : Exec Unit := do
  let index ← fetchUint32
  let val ← popUint64
  let locals ← goSet (← get).ctx.locals index.toNat val
  modify fun vm => vm.withLocals locals

def teeLocal : Exec Unit := do
  let index ← fetchUint32
  let val ← stackTop
  let locals ← goSet (← get).ctx.locals index.toNat val
  modify fun vm => vm.withLocals locals

def getGlobal : Exec Unit := do
  let index ← fetchUint32
  let val ← goIndex (← get).globals index.toNat
  pushUint64 val

def setGlobal : Exec Unit := do
  let index ← fetchUint32
  let val ← popUint64
  let globals ← goSet (← get).globals index.toNat val
  modify fun vm => vm.withGlobals globals

def i32Const : Exec Unit := do pushUint32 (← fetchUint32)
def i64Const : Exec Unit := do pushUint64 (← fetchUint64)
def f32Const : Exec Unit := do pushFloat32 (← fetchFloat32)
def f64Const : Exec Unit := do pushFloat64 (← fetchFloat64)

/-- `vm.ctx.stack = vm.ctx.stack[:len(vm.ctx.stack)-1]`, which panics on an empty stack. -/
def drop : Exec Unit := fun vm =>
  match vm.ctx.stack.items with
  | _ :: _ => .ok () vm.popped
  | [] => .error .sliceBoundsOutOfRange vm

def selectOp : Exec Unit := do
  let c ← popUint32
  let val2 ← popUint64
  let val1 ← popUint64
  pushUint64 (if c != 0 then val1 else val2)

def unreachable : Exec Unit := throw .unreachable

def nop : Exec Unit := pure ()

end Wagon
