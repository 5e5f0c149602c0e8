import Wagon.Memory

/-! # The host side of the VM: `NewVM`, `Process`, `Restart` and `Close`

`NewVM` builds a VM from a module; `Process.ReadAt` and `Process.WriteAt` give host
functions slice access to linear memory and `Process.Terminate` raises the abort flag;
`Restart` and `Close` reset and stop a VM between runs. Go slicing panics on bounds out of
range, which the model keeps as a `Trap`. Memory slices have capacity equal to their length
here: the slices below never reach past the length, so capacity does not matter. -/

namespace Wagon

inductive IOError where
  | shortBuffer
  | shortWrite
  deriving DecidableEq, Repr

section Slices

variable {α : Type}

/-- `s[lo:hi]`: Go panics unless `0 ≤ lo ≤ hi ≤ len(s)`. -/
def goSlice (s : List α) (lo hi : Int) : Except Trap (List α) :=
  if 0 ≤ lo ∧ lo ≤ hi ∧ hi ≤ s.length then .ok ((s.drop lo.toNat).take (hi - lo).toNat)
  else .error .sliceBoundsOutOfRange

def goCopy (dst src : List α) : List α := src.take dst.length ++ dst.drop src.length

theorem goSlice_ok {s : List α} {lo hi : Int} (h : 0 ≤ lo ∧ lo ≤ hi ∧ hi ≤ s.length) :
    goSlice s lo hi = .ok ((s.drop lo.toNat).take (hi - lo).toNat) := if_pos h

theorem goCopy_of_le {dst src : List α} (h : src.length ≤ dst.length) :
    goCopy dst src = src ++ dst.drop src.length := by
  simp [goCopy, List.take_of_length_le h]

theorem goCopy_length (dst src : List α) : (goCopy dst src).length = dst.length := by
  simp only [goCopy, List.length_append, List.length_take, List.length_drop]
  omega

end Slices

/-- The count both transfers compute: `len(p)`, cut at the end of memory. -/
def transferLength (mem p : List Byte) (off : Int) : Int :=
  if (mem.length : Int) < p.length + off then mem.length - off else p.length

/-- `Process.ReadAt(p, off)`: the new contents of `p`, the count and the error. -/
def Process.readAt (p : List Byte) (off : Int) : Exec (List Byte × Int × Option IOError) :=
  fun vm =>
    let length := transferLength vm.memory p off
    match goSlice vm.memory off (off + length) with
    | .error e => .error e vm
    | .ok src => .ok (goCopy p src, length, if length < p.length then some .shortBuffer else none) vm

/-- `Process.WriteAt(p, off)`: `copy(mem[off:], p[:length])` writes through to the VM's
memory. -/
def Process.writeAt (p : List Byte) (off : Int) : Exec (Int × Option IOError) := fun vm =>
  let length := transferLength vm.memory p off
  match goSlice vm.memory off vm.memory.length, goSlice p 0 length with
  | .ok dst, .ok src =>
    .ok (length, if length < p.length then some .shortWrite else none)
      (vm.withMemory (vm.memory.take off.toNat ++ goCopy dst src))
  | .error e, _ => .error e vm
  | _, .error e => .error e vm

def Process.terminate : Exec Unit := modify fun vm => { vm with abort := true }

inductive HostOp where
  | readAt (p : List Byte) (off : Int)
  | writeAt (p : List Byte) (off : Int)
  | terminate

def HostOp.run : HostOp → Exec Unit
  | .readAt p off => do
    let _ ← Process.readAt p off
  | .writeAt p off => do
    let _ ← Process.writeAt p off
  | .terminate => Process.terminate

/-- `resetGlobals` from global `i` on: each initialiser's value is stored in turn until
one fails to evaluate, which ends the loop with the error (`false`). -/
def resetGlobalsFrom (i : Nat) : List (Option InitValue) → List Word → List Word × Bool
  | [], globals => (globals, true)
  | none :: _, globals => (globals, false)
  | some v :: inits, globals =>
    let val := match v with
      | .int32 v => v.signExtend 64
      | .int64 v => v
      | .float32 v => v.setWidth 64
      | .float64 v => v
    resetGlobalsFrom (i + 1) inits (globals.set i val)

def VM.resetGlobals (vm : VM) : VM :=
  { vm with globals := (resetGlobalsFrom 0 vm.module.globalInits vm.globals).1 }

/-- `Restart` ignores the error `resetGlobals` returns. -/
def VM.restart (vm : VM) : VM :=
  { vm.resetGlobals with ctx.locals := [], abort := false }

def VM.close (vm : VM) : VM := { vm with abort := true }

@[simp] theorem VM.restart_memory (vm : VM) : vm.restart.memory = vm.memory := rfl
@[simp] theorem VM.close_memory (vm : VM) : vm.close.memory = vm.memory := rfl

/-- The errors `NewVM` returns, and a panic it does not recover. -/
inductive NewVMError where
  | multipleLinearMemories
  /-- `ExecInitExpr` failed on a global's initialiser. -/
  | initExpr
  | crash (e : Trap)

/-- The linear memory `NewVM` allocates: `Initial` pages of the module's one memory, with
`LinearMemoryIndexSpace[0]` copied in. -/
def initialMemory (module : Module) : Except NewVMError (List Byte) :=
  match module.memoryInitial, module.linearMemoryIndexSpace with
  | [], _ => pure []
  | [initial], data :: _ => pure (goCopy (List.replicate (initial.toNat * wasmPageSize) 0) data)
  | [_], [] => throw (.crash .indexOutOfRange)
  | _ :: _ :: _, _ => throw .multipleLinearMemories

/-- `NewVM` up to its start function: the transaction, linear memory, then zeroed globals set
by `resetGlobals`. The lowering of the bodies (`disasm`, `compile`) is not in the sources, so
`vm.funcs` is given as `funcs`; `pg` says whether a connection pool was passed, whose `Begin`
starts the transaction. The start function then runs as `ExecCode` on the returned VM. -/
def newVM (module : Module) (funcs : List Function) (pg debugStackDepth : Bool) :
    Except NewVMError VM := do
  let memory ← initialMemory module
  let globals :=
    resetGlobalsFrom 0 module.globalInits (List.replicate module.globalInits.length 0)
  if !globals.2 then throw .initExpr
  pure { ctx := ⟨⟨[], 0, le_refl _⟩, [], [], 0, 0⟩, module, globals := globals.1, memory, funcs,
         recoverPanic := false, abort := false, pgTx := if pg then .inProgress else .nil,
         debugStackDepth }

section Transfer

variable {vm : VM} {p : List Byte} {off : Int}

theorem transferLength_eq :
    transferLength vm.memory p off = min (p.length : Int) (vm.memory.length - off) := by
  unfold transferLength
  split <;> omega

theorem readAt_apply (h0 : 0 ≤ off) (h : off ≤ vm.memory.length) :
    let n := min (p.length : Int) (vm.memory.length - off)
    Process.readAt p off vm =
      .ok ((vm.memory.drop off.toNat).take n.toNat ++ p.drop n.toNat, n,
        if n < p.length then some .shortBuffer else none) vm := by
  intro n
  have hn : transferLength vm.memory p off = n := transferLength_eq
  have hs : goSlice vm.memory off (off + n) = .ok ((vm.memory.drop off.toNat).take n.toNat) := by
    rw [goSlice_ok (by omega), show off + n - off = n by omega]
  simp only [Process.readAt, hn, hs]
  rw [goCopy_of_le (by simp; omega)]
  simp only [List.length_take, List.length_drop]
  congr 4
  omega

theorem writeAt_apply (h0 : 0 ≤ off) (h : off ≤ vm.memory.length) :
    let n := min (p.length : Int) (vm.memory.length - off)
    Process.writeAt p off vm =
      .ok (n, if n < p.length then some .shortWrite else none)
        (vm.withMemory (vm.memory.take off.toNat ++ p.take n.toNat ++
          vm.memory.drop (off.toNat + n.toNat))) := by
  intro n
  have hn : transferLength vm.memory p off = n := transferLength_eq
  have hd : goSlice vm.memory off vm.memory.length = .ok (vm.memory.drop off.toNat) := by
    rw [goSlice_ok (by omega), List.take_of_length_le (by simp; omega)]
  have hs : goSlice p 0 n = .ok (p.take n.toNat) := by
    rw [goSlice_ok (by omega)]
    simp
  simp only [Process.writeAt, hn, hd, hs]
  rw [goCopy_of_le (by simp; omega)]
  simp only [List.length_take, List.drop_drop, List.append_assoc]
  congr 6
  omega

/-- Past the end of memory the count goes negative and the slicing panics. -/
theorem readAt_writeAt_panic_past_end (h : (vm.memory.length : Int) < off) :
    Process.readAt p off vm = .error .sliceBoundsOutOfRange vm ∧
    Process.writeAt p off vm = .error .sliceBoundsOutOfRange vm := by
  have hd : goSlice vm.memory off vm.memory.length = .error .sliceBoundsOutOfRange :=
    if_neg (by omega)
  refine ⟨?_, by simp only [Process.writeAt, hd]⟩
  have hs : goSlice vm.memory off (off + transferLength vm.memory p off) =
      .error .sliceBoundsOutOfRange :=
    if_neg (by unfold transferLength; split <;> omega)
  simp only [Process.readAt, hs]

/-- A host function's `WriteAt` of `p` at an offset inside memory, then its `ReadAt` at that
offset into a buffer as long as `p`: the read gives back the `n` bytes written, keeps the rest
of the buffer, and reports the same count and shortness. -/
theorem writeAt_then_readAt {q : List Byte} {r : Int × Option IOError} {vm' : VM} (h0 : 0 ≤ off)
    (h : off ≤ vm.memory.length) (hq : q.length = p.length)
    (hw : Process.writeAt p off vm = .ok r vm') :
    let n := min (p.length : Int) (vm.memory.length - off)
    r = (n, if n < p.length then some .shortWrite else none) ∧
    Process.readAt q off vm' =
      .ok (p.take n.toNat ++ q.drop n.toNat, n, if n < p.length then some .shortBuffer else none)
        vm' := by
  intro n
  rw [writeAt_apply h0 h] at hw
  cases hw
  refine ⟨rfl, ?_⟩
  have hn : off.toNat + n.toNat ≤ vm.memory.length ∧ n.toNat ≤ p.length := by omega
  have hl : (vm.memory.take off.toNat ++ p.take n.toNat ++
      vm.memory.drop (off.toNat + n.toNat)).length = vm.memory.length := by
    simp only [List.length_append, List.length_take, List.length_drop]
    omega
  rw [readAt_apply h0 (by simp only [VM.withMemory_memory, hl]; exact h)]
  simp only [VM.withMemory_memory, hl, hq]
  rw [List.append_assoc, List.drop_left' (by simp only [List.length_take]; omega),
    List.take_left' (by simp only [List.length_take]; omega)]

/-- Three bytes written at offset 2 of a 4-byte memory: two fit, and reading them back into a
3-byte buffer keeps its last byte. -/
theorem writeAt_then_readAt_short :
    let vm := VM.running [] [] [0, 0, 0, 0]
    Process.writeAt [1, 2, 3] 2 vm = .ok (2, some .shortWrite) (vm.withMemory [0, 0, 1, 2]) ∧
    Process.readAt [7, 7, 7] 2 (vm.withMemory [0, 0, 1, 2]) =
      .ok ([1, 2, 7], 2, some .shortBuffer) (vm.withMemory [0, 0, 1, 2]) := by
  intro vm
  have hw : Process.writeAt [1, 2, 3] 2 vm =
      .ok (2, some .shortWrite) (vm.withMemory [0, 0, 1, 2]) := rfl
  exact ⟨hw, (writeAt_then_readAt (p := [1, 2, 3]) (q := [7, 7, 7]) (by decide) (by decide) rfl
    hw).2⟩

/-- `ReadAt` and `WriteAt` of one byte at offset 1 of an empty memory panic instead of
returning `0` with a short-transfer error. -/
theorem readAt_writeAt_one_past_empty :
    Process.readAt [0] 1 (VM.running [] [] []) =
      .error .sliceBoundsOutOfRange (VM.running [] [] []) ∧
    Process.writeAt [0] 1 (VM.running [] [] []) =
      .error .sliceBoundsOutOfRange (VM.running [] [] []) :=
  ⟨rfl, rfl⟩

end Transfer

end Wagon
