import Wagon.Machine

/-! # Direct and indirect calls

`call` and `callIndirect` read their immediates, resolve the callee and check its
signature; the call itself, `vm.funcs[index].call(vm, index)`, is made by the dispatch
step, so each handler here returns the index of the function to call. -/

namespace Wagon

/-- `for i := range expect { if expect[i] != actual[i] { panic(ErrSignatureMismatch) } }`. -/
def checkTypes : List ValueType → List ValueType → Exec Unit
  | [], _ => pure ()
  | _ :: _, [] => throw .indexOutOfRange
  | t :: ts, u :: us => if t ≠ u then throw .signatureMismatch else checkTypes ts us

/-- `call`: the callee's name is looked up for the operation log, which panics for an
index outside the function index space. -/
def call : Exec Nat := do
  let index ← fetchUint32
  let _ ← goIndex (← get).module.functionIndexSpace index.toNat
  return index.toNat

def callIndirect : Exec Nat := do
  let index ← fetchUint32
  let fnExpect ← goIndex (← get).module.types index.toNat
  let _ ← fetchUint32
  let tableIndex ← popUint32
  let table ← goIndex (← get).module.tableIndexSpace 0
  if table.length ≤ tableIndex.toNat then throw .undefinedElementIndex
  let elemIndex ← goIndex table tableIndex.toNat
  let fnActual ← goIndex (← get).module.functionIndexSpace elemIndex.toNat
  if fnExpect.paramTypes.length ≠ fnActual.sig.paramTypes.length then throw .signatureMismatch
  if fnExpect.returnTypes.length ≠ fnActual.sig.returnTypes.length then throw .signatureMismatch
  checkTypes fnExpect.paramTypes fnActual.sig.paramTypes
  checkTypes fnExpect.returnTypes fnActual.sig.returnTypes
  return elemIndex.toNat

section Check

variable {vm : VM}

theorem checkTypes_apply {ts us : List ValueType} (h : ts.length = us.length) :
    checkTypes ts us vm = if ts = us then .ok () vm else .error .signatureMismatch vm := by
  induction ts generalizing us with
  | nil =>
    cases us with
    | nil => rfl
    | cons => simp at h
  | cons t ts ih =>
    cases us with
    | nil => simp at h
    | cons u us =>
      simp only [List.length_cons, Nat.add_right_cancel_iff] at h
      by_cases htu : t = u
      · simp [checkTypes, htu, ih h]
      · simp [checkTypes, htu]

end Check

end Wagon
