import Wagon.Machine

/-! # Linear memory operators (`exec/memory.go`)

Every load and store first asks `inBounds`, which peeks the offset immediate and the
base operand without consuming them, then `fetchBaseAddr` consumes both. The checks
and the access are proved to use one effective address, and the bounds test of each
handler, written as `inBounds (w - 1)` with its own constant, to trap exactly when
`a + w > len(memory)`. -/

namespace Wagon

def wasmPageSize : Nat := 65536

def memFrom (addr : Nat) : Exec (List Byte) := fun vm =>
  if addr ≤ vm.memory.length then .ok (vm.memory.drop addr) vm else .error .indexOutOfRange vm

/-- `binary.LittleEndian.Uint16/32/64(b)`: the first `w` bytes of `b` as an `n`-bit word. -/
def uintLE (n w : Nat) (b : List Byte) : Exec (BitVec n) :=
  if w ≤ b.length then pure (BitVec.ofNat n (leValue (b.take w))) else throw .indexOutOfRange

def memRead (n w addr : Nat) : Exec (BitVec n) := do uintLE n w (← memFrom addr)

def memByte (addr : Nat) : Exec Byte := fun vm =>
  match vm.memory[addr]? with
  | some b => .ok b vm
  | none => .error .indexOutOfRange vm

def memUint16 : Nat → Exec (BitVec 16) := memRead 16 2

def memUint32 : Nat → Exec (BitVec 32) := memRead 32 4

def memUint64 : Nat → Exec Word := memRead 64 8

/-- `PutUint16/32/64(vm.memory[addr:], …)` and `vm.memory[addr] = …`: after the bounds
check the bytes overwrite memory from `addr`. -/
def memPut (addr : Nat) (b : List Byte) : Exec Unit := fun vm =>
  if addr + b.length ≤ vm.memory.length then
    .ok () { vm with memory := vm.memory.take addr ++ b ++ vm.memory.drop (addr + b.length) }
  else .error .indexOutOfRange vm

def putByte (addr : Nat) (v : Byte) : Exec Unit := memPut addr [v]

def putUint16 (addr : Nat) (v : BitVec 16) : Exec Unit := memPut addr (leBytes 2 v.toNat)

def putUint32 (addr : Nat) (v : BitVec 32) : Exec Unit := memPut addr (leBytes 4 v.toNat)

def putUint64 (addr : Nat) (v : Word) : Exec Unit := memPut addr (leBytes 8 v.toNat)

def fetchBaseAddr : Exec Nat := do
  let off ← fetchUint32
  let base ← popInt32
  return (off + base).toNat

/-- `inBounds(offset)`: `addr + offset < len(memory)` for the address the next
`fetchBaseAddr` computes, read without consuming the immediate or the stack top. -/
def inBounds (offset : Nat) : Exec Bool := fun vm =>
  match codeUint32 vm.ctx.code vm.ctx.pc, vm.ctx.stack.items with
  | some imm, top :: _ => .ok ((imm + top.setWidth 32).toNat + offset < vm.memory.length) vm
  | _, _ => .error .indexOutOfRange vm

def curMem : Exec (List Byte) := do memFrom (← fetchBaseAddr)

def load {α : Type} (offset : Nat) (read : Nat → Exec α) (push : α → Exec Unit) : Exec Unit := do
  if !(← inBounds offset) then throw .outOfBoundsMemoryAccess
  push (← read (← fetchBaseAddr))

def store {α : Type} (offset : Nat) (val : α) (write : Nat → α → Exec Unit) : Exec Unit := do
  if !(← inBounds offset) then throw .outOfBoundsMemoryAccess
  write (← fetchBaseAddr) val

def i32Load : Exec Unit := load 3 memUint32 pushUint32
def i32Load8s : Exec Unit := load 0 memByte fun val => pushInt32 (val.signExtend 32)
def i32Load8u : Exec Unit := load 0 memByte fun val => pushUint32 (val.setWidth 32)
def i32Load16s : Exec Unit := load 1 memUint16 fun val => pushInt32 (val.signExtend 32)
def i32Load16u : Exec Unit := load 1 memUint16 fun val => pushUint32 (val.setWidth 32)
def i64Load : Exec Unit := load 7 memUint64 pushUint64
def i64Load8s : Exec Unit := load 0 memByte fun val => pushInt64 (val.signExtend 64)
def i64Load8u : Exec Unit := load 0 memByte fun val => pushUint64 (val.setWidth 64)
def i64Load16s : Exec Unit := load 1 memUint16 fun val => pushInt64 (val.signExtend 64)
def i64Load16u : Exec Unit := load 1 memUint16 fun val => pushUint64 (val.setWidth 64)
def i64Load32s : Exec Unit := load 3 memUint32 fun val => pushInt64 (val.signExtend 64)
def i64Load32u : Exec Unit := load 3 memUint32 fun val => pushUint64 (val.setWidth 64)
def f32Load : Exec Unit := load 3 memUint32 pushFloat32
def f64Load : Exec Unit := load 7 memUint64 pushFloat64

def f32Store : Exec Unit := do store 3 (← popFloat32) putUint32
def f64Store : Exec Unit := do store 7 (← popFloat64) putUint64
def i32Store : Exec Unit := do store 3 (← popUint32) putUint32
def i32Store8 : Exec Unit := do store 0 ((← popUint32).setWidth 8) putByte
def i32Store16 : Exec Unit := do store 1 ((← popUint32).setWidth 16) putUint16
def i64Store : Exec Unit := do store 7 (← popUint64) putUint64
def i64Store8 : Exec Unit := do store 0 ((← popUint64).setWidth 8) putByte
def i64Store16 : Exec Unit := do store 1 ((← popUint64).setWidth 16) putUint16
def i64Store32 : Exec Unit := do store 3 ((← popUint64).setWidth 32) putUint32

/-- `make([]byte, n)` for an `int32` length: a negative length panics. -/
def makeBytes (n : BitVec 32) : Exec (List Byte) :=
  if n.toInt < 0 then throw .makesliceLenOutOfRange else pure (List.replicate n.toNat 0)

/-- `current_memory`: the reserved byte, then `int32(len(vm.memory) / wasmPageSize)`. -/
def currentMemory : Exec Unit := do
  let _ ← fetchInt8
  let val := BitVec.ofNat 32 ((← get).memory.length / wasmPageSize)
  pushInt32 val

/-- `grow_memory`: the page count `n` is multiplied by the page size in `int32`. -/
def growMemory : Exec Unit := do
  let _ ← fetchInt8
  let curLen := (← get).memory.length / wasmPageSize
  let n ← popInt32
  let grown ← makeBytes (n * BitVec.ofNat 32 wasmPageSize)
  modify fun vm => { vm with memory := vm.memory ++ grown }
  pushInt32 (BitVec.ofNat 32 curLen)

section Address

variable {vm : VM} {o : BitVec 32} {b : Word} {rest : List Word}

/-- The effective address of an access with offset immediate `o` and base operand `b`:
`uint32` addition, so it wraps at `2^32`. -/
def effAddr (o : BitVec 32) (b : Word) : Nat := (o + b.setWidth 32).toNat

def VM.addrConsumed (vm : VM) : VM := (vm.skip 4).popped

@[simp] theorem VM.addrConsumed_memory : vm.addrConsumed.memory = vm.memory := rfl
@[simp] theorem VM.addrConsumed_pc : vm.addrConsumed.ctx.pc = vm.ctx.pc + 4 := rfl
@[simp] theorem VM.addrConsumed_items : vm.addrConsumed.ctx.stack.items = vm.ctx.stack.items.drop 1 :=
  rfl

theorem room_addrConsumed (hs : vm.ctx.stack.items = b :: rest) : vm.addrConsumed.Room :=
  room_popped hs

theorem inBounds_ok (ho : codeUint32 vm.ctx.code vm.ctx.pc = some o)
    (hs : vm.ctx.stack.items = b :: rest) (offset : Nat) :
    inBounds offset vm = .ok (decide (effAddr o b + offset < vm.memory.length)) vm := by
  simp [inBounds, ho, hs, effAddr]

theorem fetchBaseAddr_ok (ho : codeUint32 vm.ctx.code vm.ctx.pc = some o)
    (hs : vm.ctx.stack.items = b :: rest) :
    fetchBaseAddr vm = .ok (effAddr o b) vm.addrConsumed := by
  simp only [codeUint32, Option.map_eq_some'] at ho
  obtain ⟨c, hc, rfl⟩ := ho
  simp [fetchBaseAddr, fetchUint32, fetchBytes, popInt32, popUint32, popUint64, bind_apply,
    map_apply, EStateM.bind, EStateM.map, hc, hs, effAddr, VM.addrConsumed, VM.skip]

theorem load_apply {α : Type} {offset : Nat} {read : Nat → Exec α} {push : α → Exec Unit}
    (ho : codeUint32 vm.ctx.code vm.ctx.pc = some o) (hs : vm.ctx.stack.items = b :: rest) :
    load offset read push vm =
      if effAddr o b + offset < vm.memory.length then (read (effAddr o b) >>= push) vm.addrConsumed
      else .error .outOfBoundsMemoryAccess vm := by
  by_cases h : effAddr o b + offset < vm.memory.length
  · simp [load, bind_apply, EStateM.bind, inBounds_ok ho hs, h, fetchBaseAddr_ok ho hs]
  · simp [load, bind_apply, EStateM.bind, inBounds_ok ho hs, h]

theorem store_apply {α : Type} {offset : Nat} {val : α} {write : Nat → α → Exec Unit}
    (ho : codeUint32 vm.ctx.code vm.ctx.pc = some o) (hs : vm.ctx.stack.items = b :: rest) :
    store offset val write vm =
      if effAddr o b + offset < vm.memory.length then write (effAddr o b) val vm.addrConsumed
      else .error .outOfBoundsMemoryAccess vm := by
  by_cases h : effAddr o b + offset < vm.memory.length
  · simp [store, bind_apply, EStateM.bind, inBounds_ok ho hs, h, fetchBaseAddr_ok ho hs]
  · simp [store, bind_apply, EStateM.bind, inBounds_ok ho hs, h]

end Address

section Access

variable {vm : VM}

theorem memRead_ok {n w a : Nat} (h : a + w ≤ vm.memory.length) :
    memRead n w a vm = .ok (BitVec.ofNat n (leValue ((vm.memory.drop a).take w))) vm := by
  simp [memRead, memFrom, bind_apply, EStateM.bind, show a ≤ vm.memory.length by omega, uintLE,
    show w ≤ vm.memory.length - a by omega]

theorem memByte_eq_memRead : memByte = memRead 8 1 := by
  funext a vm
  by_cases h : a < vm.memory.length
  · rw [memRead_ok (by omega)]
    simp [memByte, h, List.take_one, leValue_singleton]
  · rw [memByte, List.getElem?_eq_none (by omega)]
    by_cases h' : a ≤ vm.memory.length <;>
      simp [memRead, memFrom, bind_apply, EStateM.bind, uintLE, h', show vm.memory.length - a = 0 by omega]

def writeBytes (m : List Byte) (a : Nat) (bs : List Byte) : List Byte :=
  m.take a ++ bs ++ m.drop (a + bs.length)

theorem memPut_ok {a : Nat} {bs : List Byte} (h : a + bs.length ≤ vm.memory.length) :
    memPut a bs vm = .ok () { vm with memory := writeBytes vm.memory a bs } := by
  simp [memPut, h, writeBytes]

end Access

section Window

variable {m bs : List Byte} {a : Nat}

theorem length_writeBytes (h : a + bs.length ≤ m.length) :
    (writeBytes m a bs).length = m.length := by
  simp [writeBytes]; omega

theorem writeBytes_window (h : a + bs.length ≤ m.length) {k w : Nat} (hk : k + w ≤ bs.length) :
    ((writeBytes m a bs).drop (a + k)).take w = (bs.drop k).take w := by
  simp [writeBytes, List.drop_append_eq_append_drop, List.take_append_eq_append_take,
    show min a m.length = a by omega, show w - (bs.length - k) = 0 by omega]

theorem writeBytes_outside (h : a + bs.length ≤ m.length) {i : Nat}
    (hi : i < a ∨ a + bs.length ≤ i) : (writeBytes m a bs)[i]? = m[i]? := by
  rcases hi with hi | hi
  · rw [writeBytes, List.append_assoc, List.getElem?_append_left (by simp; omega),
      List.getElem?_take_of_lt hi]
  · rw [writeBytes, List.getElem?_append_right (by simp; omega), List.getElem?_drop]
    simp only [List.length_append, List.length_take, show min a m.length = a by omega]
    congr 1
    omega

theorem leValue_window_leBytes {k w' w : Nat} (hk : k + w' ≤ w) (v : Word) :
    leValue (((leBytes w v.toNat).drop k).take w') = (v.extractLsb' (8 * k) (8 * w')).toNat := by
  rw [drop_leBytes (by omega), take_leBytes (by omega), leValue_leBytes, BitVec.extractLsb'_toNat,
    Nat.shiftRight_eq_div_pow, Nat.pow_mul, Nat.pow_mul]

end Window

inductive Load where
  | i32Load | i32Load8s | i32Load8u | i32Load16s | i32Load16u
  | i64Load | i64Load8s | i64Load8u | i64Load16s | i64Load16u | i64Load32s | i64Load32u
  | f32Load | f64Load
  deriving DecidableEq, Repr

def Load.handler : Load → Exec Unit
  | .i32Load => Wagon.i32Load | .i32Load8s => Wagon.i32Load8s | .i32Load8u => Wagon.i32Load8u
  | .i32Load16s => Wagon.i32Load16s | .i32Load16u => Wagon.i32Load16u
  | .i64Load => Wagon.i64Load | .i64Load8s => Wagon.i64Load8s | .i64Load8u => Wagon.i64Load8u
  | .i64Load16s => Wagon.i64Load16s | .i64Load16u => Wagon.i64Load16u
  | .i64Load32s => Wagon.i64Load32s | .i64Load32u => Wagon.i64Load32u
  | .f32Load => Wagon.f32Load | .f64Load => Wagon.f64Load

def Load.width : Load → Nat
  | .i32Load8s | .i32Load8u | .i64Load8s | .i64Load8u => 1
  | .i32Load16s | .i32Load16u | .i64Load16s | .i64Load16u => 2
  | .i32Load | .i64Load32s | .i64Load32u | .f32Load => 4
  | .i64Load | .f64Load => 8

/-- The word a load pushes for the little-endian number `x` of its bytes: sign-extended
by the `_s` loads, zero-extended by the others. -/
def Load.extend : Load → Nat → Word
  | .i32Load8s, x | .i64Load8s, x => (BitVec.ofNat 8 x).signExtend 64
  | .i32Load16s, x | .i64Load16s, x => (BitVec.ofNat 16 x).signExtend 64
  | .i64Load32s, x => (BitVec.ofNat 32 x).signExtend 64
  | _, x => BitVec.ofNat 64 x

inductive Store where
  | f32Store | f64Store | i32Store | i32Store8 | i32Store16
  | i64Store | i64Store8 | i64Store16 | i64Store32
  deriving DecidableEq, Repr

def Store.handler : Store → Exec Unit
  | .f32Store => Wagon.f32Store | .f64Store => Wagon.f64Store | .i32Store => Wagon.i32Store
  | .i32Store8 => Wagon.i32Store8 | .i32Store16 => Wagon.i32Store16
  | .i64Store => Wagon.i64Store | .i64Store8 => Wagon.i64Store8
  | .i64Store16 => Wagon.i64Store16 | .i64Store32 => Wagon.i64Store32

def Store.width : Store → Nat
  | .i32Store8 | .i64Store8 => 1
  | .i32Store16 | .i64Store16 => 2
  | .f32Store | .i32Store | .i64Store32 => 4
  | .f64Store | .i64Store => 8

section Handlers

variable {vm : VM} {o : BitVec 32} {b v : Word} {rest : List Word}

theorem load_memRead {n w offset : Nat} {push : BitVec n → Exec Unit} (hw : offset + 1 = w)
    (ho : codeUint32 vm.ctx.code vm.ctx.pc = some o) (hs : vm.ctx.stack.items = b :: rest) :
    load offset (memRead n w) push vm =
      if effAddr o b + w ≤ vm.memory.length then
        push (BitVec.ofNat n (leValue ((vm.memory.drop (effAddr o b)).take w))) vm.addrConsumed
      else .error .outOfBoundsMemoryAccess vm := by
  rw [load_apply ho hs]
  by_cases h : effAddr o b + w ≤ vm.memory.length
  · rw [if_pos (by omega), if_pos h, bind_ok (memRead_ok (by simpa using h)),
      VM.addrConsumed_memory]
  · rw [if_neg (by omega), if_neg h]

theorem Load.handler_apply (l : Load) (ho : codeUint32 vm.ctx.code vm.ctx.pc = some o)
    (hs : vm.ctx.stack.items = b :: rest) :
    l.handler vm =
      if effAddr o b + l.width ≤ vm.memory.length then
        .ok () (vm.addrConsumed.pushed
          (l.extend (leValue ((vm.memory.drop (effAddr o b)).take l.width))))
      else .error .outOfBoundsMemoryAccess vm := by
  have hx : leValue ((vm.memory.drop (effAddr o b)).take l.width) < 2 ^ (8 * l.width) := by
    have := leValue_lt ((vm.memory.drop (effAddr o b)).take l.width)
    rw [Nat.pow_mul]
    exact Nat.lt_of_lt_of_le this (Nat.pow_le_pow_right (by omega) (List.length_take_le _ _))
  have room := room_addrConsumed hs
  cases l <;>
    simp only [Load.handler, Wagon.i32Load, Wagon.i32Load8s, Wagon.i32Load8u, Wagon.i32Load16s,
      Wagon.i32Load16u, Wagon.i64Load, Wagon.i64Load8s, Wagon.i64Load8u, Wagon.i64Load16s,
      Wagon.i64Load16u, Wagon.i64Load32s, Wagon.i64Load32u, Wagon.f32Load, Wagon.f64Load,
      memByte_eq_memRead, memUint16, memUint32, memUint64] <;>
    refine (load_memRead rfl ho hs).trans ?_ <;>
    simp only [Load.width, Load.extend, pushInt32, pushUint32, pushInt64, pushFloat32, pushFloat64,
      pushUint64_ok room, signExtend_signExtend _ (show 8 ≤ 32 by omega),
      signExtend_signExtend _ (show 16 ≤ 32 by omega)] at hx ⊢ <;>
    simp (disch := omega) only [setWidth_ofNat_of_lt, Nat.reduceAdd]

theorem store_memPut {α : Type} {offset : Nat} {val : α} {bytes : α → List Byte}
    (hw : offset + 1 = (bytes val).length)
    (ho : codeUint32 vm.ctx.code vm.ctx.pc = some o) (hs : vm.ctx.stack.items = b :: rest) :
    store offset val (fun a x => memPut a (bytes x)) vm =
      if effAddr o b + (bytes val).length ≤ vm.memory.length then
        .ok () (vm.addrConsumed.withMemory (writeBytes vm.memory (effAddr o b) (bytes val)))
      else .error .outOfBoundsMemoryAccess vm := by
  rw [store_apply ho hs]
  by_cases h : effAddr o b + (bytes val).length ≤ vm.memory.length
  · rw [if_pos (by omega), if_pos h, memPut_ok (by simpa using h)]
    rfl
  · rw [if_neg (by omega), if_neg h]

theorem Store.handler_apply (s : Store) (ho : codeUint32 vm.ctx.code vm.ctx.pc = some o)
    (hs : vm.ctx.stack.items = v :: b :: rest) :
    s.handler vm =
      if effAddr o b + s.width ≤ vm.memory.length then
        .ok () (vm.popped.addrConsumed.withMemory
          (writeBytes vm.memory (effAddr o b) (leBytes s.width v.toNat)))
      else .error .outOfBoundsMemoryAccess vm.popped := by
  have hs' : vm.popped.ctx.stack.items = b :: rest := by simp [hs]
  have ho' : codeUint32 vm.popped.ctx.code vm.popped.ctx.pc = some o := by simpa using ho
  cases s <;>
    simp only [Store.handler, Wagon.f32Store, Wagon.f64Store, Wagon.i32Store, Wagon.i32Store8,
      Wagon.i32Store16, Wagon.i64Store, Wagon.i64Store8, Wagon.i64Store16, Wagon.i64Store32,
      popFloat32, popFloat64, popInt32] <;>
    (first | rw [bind_ok (popUint32_ok hs)] | rw [bind_ok (popUint64_ok hs)]) <;>
    refine (store_memPut ?_ ho' hs').trans ?_ <;>
    simp (disch := omega) only [Store.width, putByte, putUint16, putUint32, putUint64,
      singleton_eq_leBytes, leBytes_toNat_setWidth, length_leBytes, BitVec.setWidth_eq,
      VM.popped_memory]

theorem Load.handler_ok (l : Load) {vm' : VM} (ho : codeUint32 vm.ctx.code vm.ctx.pc = some o)
    (hs : vm.ctx.stack.items = b :: rest) (h : l.handler vm = .ok () vm') :
    vm'.ctx.pc = vm.ctx.pc + 4 ∧
      vm'.ctx.stack.items = l.extend (leValue ((vm.memory.drop (effAddr o b)).take l.width)) :: rest := by
  rw [Load.handler_apply l ho hs] at h
  split at h <;> cases h
  simp [hs]

theorem Store.handler_ok (s : Store) {vm' : VM} (ho : codeUint32 vm.ctx.code vm.ctx.pc = some o)
    (hs : vm.ctx.stack.items = v :: b :: rest) (h : s.handler vm = .ok () vm') :
    vm'.ctx.pc = vm.ctx.pc + 4 ∧ vm'.ctx.stack.items = rest := by
  rw [Store.handler_apply s ho hs] at h
  split at h <;> cases h
  simp [VM.withMemory, hs]

end Handlers

/-- Every load and store handler traps with `ErrOutOfBoundsMemoryAccess` exactly when
`a + w > len(memory)` for the wrapped address `a = (o + uint32 b) mod 2^32`, leaves memory
as it was when it traps, and otherwise reads or writes exactly the bytes `[a, a + w)`.
The address `inBounds` tests is the address `fetchBaseAddr` returns. -/
theorem memory_access_traps_iff_out_of_bounds (vm : VM) (o : BitVec 32) (v b : Word)
    (rest : List Word) (ho : codeUint32 vm.ctx.code vm.ctx.pc = some o) :
    (vm.ctx.stack.items = b :: rest →
      (∀ offset, inBounds offset vm = .ok (decide (effAddr o b + offset < vm.memory.length)) vm ∧
        fetchBaseAddr vm = .ok (effAddr o b) vm.addrConsumed) ∧
      ∀ l : Load, (l.handler vm =
        if effAddr o b + l.width ≤ vm.memory.length then
          .ok () (vm.addrConsumed.pushed
            (l.extend (leValue ((vm.memory.drop (effAddr o b)).take l.width))))
        else .error .outOfBoundsMemoryAccess vm) ∧
        ∀ vm', l.handler vm = .ok () vm' → vm'.ctx.pc = vm.ctx.pc + 4 ∧
          vm'.ctx.stack.items =
            l.extend (leValue ((vm.memory.drop (effAddr o b)).take l.width)) :: rest) ∧
    (vm.ctx.stack.items = v :: b :: rest →
      ∀ s : Store, (s.handler vm =
        if effAddr o b + s.width ≤ vm.memory.length then
          .ok () (vm.popped.addrConsumed.withMemory
            (writeBytes vm.memory (effAddr o b) (leBytes s.width v.toNat)))
        else .error .outOfBoundsMemoryAccess vm.popped) ∧
        ∀ vm', s.handler vm = .ok () vm' → vm'.ctx.pc = vm.ctx.pc + 4 ∧ vm'.ctx.stack.items = rest) :=
  ⟨fun hs => ⟨fun offset => ⟨inBounds_ok ho hs offset, fetchBaseAddr_ok ho hs⟩,
      fun l => ⟨Load.handler_apply l ho hs, fun _ => Load.handler_ok l ho hs⟩⟩,
    fun hs s => ⟨Store.handler_apply s ho hs, fun _ => Store.handler_ok s ho hs⟩⟩

/-- An `i32.load` of the last four bytes of an 8-byte memory succeeds; one byte further traps
and leaves the machine as it was. -/
theorem i32Load_at_memory_end :
    (∃ vm', Load.i32Load.handler (VM.running [4] [0, 0, 0, 0] (List.replicate 8 0)) =
      .ok () vm' ∧ vm'.ctx.stack.items = [0]) ∧
    Load.i32Load.handler (VM.running [5] [0, 0, 0, 0] (List.replicate 8 0)) =
      .error .outOfBoundsMemoryAccess (VM.running [5] [0, 0, 0, 0] (List.replicate 8 0)) :=
  ⟨⟨_, (((memory_access_traps_iff_out_of_bounds (VM.running [4] [0, 0, 0, 0] (List.replicate 8 0))
      0 0 4 [] rfl).1 rfl).2 .i32Load).1, rfl⟩,
    (((memory_access_traps_iff_out_of_bounds (VM.running [5] [0, 0, 0, 0] (List.replicate 8 0))
      0 0 5 [] rfl).1 rfl).2 .i32Load).1⟩

/-- A store of width `w` writes the `w` low bytes of its operand little-endian at `a` and
nothing else; a load of width `w'` at `a + k` inside that window then pushes bits
`[8k, 8(k + w'))` of the operand, sign-extended by the `_s` loads and zero-extended by
the others. -/
theorem store_then_load_reads_back (s : Store) (l : Load) {vm : VM} {o : BitVec 32} {v b : Word}
    {rest : List Word} (ho : codeUint32 vm.ctx.code vm.ctx.pc = some o)
    (hs : vm.ctx.stack.items = v :: b :: rest) (hfit : effAddr o b + s.width ≤ vm.memory.length) :
    ∃ vm', s.handler vm = .ok () vm' ∧ vm'.ctx.pc = vm.ctx.pc + 4 ∧ vm'.ctx.stack.items = rest ∧
      (vm'.memory.drop (effAddr o b)).take s.width = leBytes s.width v.toNat ∧
      (∀ i, i < effAddr o b ∨ effAddr o b + s.width ≤ i → vm'.memory[i]? = vm.memory[i]?) ∧
      ∀ (k : Nat) (vm₂ : VM) (o₂ : BitVec 32) (b₂ : Word) (rest₂ : List Word),
        vm₂.memory = vm'.memory → codeUint32 vm₂.ctx.code vm₂.ctx.pc = some o₂ →
        vm₂.ctx.stack.items = b₂ :: rest₂ → effAddr o₂ b₂ = effAddr o b + k →
        k + l.width ≤ s.width →
        ∃ vm₃, l.handler vm₂ = .ok () vm₃ ∧
          vm₃ = vm₂.addrConsumed.pushed (l.extend (v.extractLsb' (8 * k) (8 * l.width)).toNat) ∧
          vm₃.ctx.pc = vm₂.ctx.pc + 4 ∧
          vm₃.ctx.stack.items = l.extend (v.extractLsb' (8 * k) (8 * l.width)).toNat :: rest₂ := by
  have hlen : effAddr o b + (leBytes s.width v.toNat).length ≤ vm.memory.length := by
    simpa using hfit
  have hst : s.handler vm = .ok () (vm.popped.addrConsumed.withMemory
      (writeBytes vm.memory (effAddr o b) (leBytes s.width v.toNat))) := by
    rw [Store.handler_apply s ho hs, if_pos hfit]
  obtain ⟨hpc, hitems⟩ := Store.handler_ok s ho hs hst
  refine ⟨_, hst, hpc, hitems, ?_, ?_, ?_⟩
  · simpa [take_leBytes] using
      writeBytes_window hlen (show 0 + s.width ≤ (leBytes s.width v.toNat).length by simp)
  · intro i hi
    exact writeBytes_outside hlen (by simpa using hi)
  · intro k vm₂ o₂ b₂ rest₂ hm ho₂ hs₂ ha hk
    refine ⟨_, ?_, rfl, rfl, by simp [hs₂]⟩
    rw [Load.handler_apply l ho₂ hs₂, hm, ha]
    simp only [VM.withMemory_memory, length_writeBytes hlen]
    rw [if_pos (by omega), writeBytes_window hlen (by simpa using hk), leValue_window_leBytes hk]

/-- Storing the `i32` value `0xDEADBEEF` at address 4 and loading one byte back with
`i32.load8_u` pushes its low byte `0xEF`. -/
theorem i32Store_then_i32Load8u :
    ∃ vm', Store.i32Store.handler (VM.running [0xDEADBEEF, 4] [0, 0, 0, 0] (List.replicate 8 0)) =
      .ok () vm' ∧
      Load.i32Load8u.handler (VM.running [4] [0, 0, 0, 0] vm'.memory) =
        .ok () ((VM.running [4] [0, 0, 0, 0] vm'.memory).addrConsumed.pushed 0xEF) := by
  obtain ⟨vm', h, -, -, -, -, hload⟩ := @store_then_load_reads_back .i32Store .i32Load8u
    (VM.running [0xDEADBEEF, 4] [0, 0, 0, 0] (List.replicate 8 0)) 0 0xDEADBEEF 4 [] rfl rfl
    (by decide)
  obtain ⟨_, h₃, rfl, -⟩ := hload 0 (VM.running [4] [0, 0, 0, 0] vm'.memory) 0 4 [] rfl rfl rfl rfl
    (by decide)
  exact ⟨vm', h, h₃⟩

section Grow

variable {vm : VM} {r : List Byte} {n : Word} {rest : List Word}

/-- The byte count `grow_memory` asks `make` for: `n * wasmPageSize`, computed in `int32`. -/
def growBytes (n : Word) : BitVec 32 := n.setWidth 32 * BitVec.ofNat 32 wasmPageSize

theorem currentMemory_apply (hr : codeAt vm.ctx.code vm.ctx.pc 1 = some r) (room : vm.Room) :
    currentMemory vm =
      .ok () ((vm.skip 1).pushed
        ((BitVec.ofNat 32 (vm.memory.length / wasmPageSize)).signExtend 64)) := by
  unfold currentMemory
  rw [bind_ok (fetchInt8_ok hr)]
  exact pushUint64_ok (show (vm.skip 1).Room from room) _

theorem growMemory_apply (hr : codeAt vm.ctx.code vm.ctx.pc 1 = some r)
    (hs : vm.ctx.stack.items = n :: rest) :
    growMemory vm =
      if (growBytes n).toInt < 0 then .error .makesliceLenOutOfRange (vm.skip 1).popped
      else .ok () (((vm.skip 1).popped.withMemory
          (vm.memory ++ List.replicate (growBytes n).toNat 0)).pushed
        ((BitVec.ofNat 32 (vm.memory.length / wasmPageSize)).signExtend 64)) := by
  have hs' : (vm.skip 1).ctx.stack.items = n :: rest := hs
  have room : ((vm.skip 1).popped.withMemory
      (vm.memory ++ List.replicate (growBytes n).toNat 0)).Room := room_popped hs'
  unfold growMemory
  rw [bind_ok (fetchInt8_ok hr)]
  simp only [bind_apply, EStateM.bind, get, getThe, MonadStateOf.get, EStateM.get, popInt32,
    popUint32_ok hs', map_apply]
  rw [show BitVec.setWidth 32 n * BitVec.ofNat 32 wasmPageSize = growBytes n from rfl]
  by_cases h : (growBytes n).toInt < 0
  · simp [makeBytes, h]
  · simp only [makeBytes, h, if_false, pure_apply, modify, modifyGet, MonadStateOf.modifyGet,
      EStateM.modifyGet, pushInt32]
    exact pushUint64_ok room _

theorem growBytes_of_lt {n : Word} (hn : (n.setWidth 32).toNat < 32768) :
    ¬(growBytes n).toInt < 0 ∧ (growBytes n).toNat = (n.setWidth 32).toNat * wasmPageSize := by
  have hm : (growBytes n).toNat = (n.setWidth 32).toNat * wasmPageSize := by
    simp only [growBytes, BitVec.toNat_mul, BitVec.toNat_ofNat, wasmPageSize]
    omega
  refine ⟨?_, hm⟩
  rw [BitVec.toInt_eq_toNat_cond, hm]
  simp only [wasmPageSize]
  split <;> omega

/-- For a delta `n` with `0 ≤ n < 32768`, `grow_memory` appends exactly `n` zeroed pages and
pushes the old page count, so a following `current_memory` pushes the old count plus `n`.
No branch pushes `-1`: growth is unbounded. -/
theorem growMemory_appends_pages {r' : List Byte} (hr : codeAt vm.ctx.code vm.ctx.pc 1 = some r)
    (hs : vm.ctx.stack.items = n :: rest) (hn : (n.setWidth 32).toNat < 32768) :
    ∃ vm', growMemory vm = .ok () vm' ∧
      vm'.memory = vm.memory ++ List.replicate ((n.setWidth 32).toNat * wasmPageSize) 0 ∧
      vm'.ctx.stack.items =
        (BitVec.ofNat 32 (vm.memory.length / wasmPageSize)).signExtend 64 :: rest ∧
      (codeAt vm'.ctx.code vm'.ctx.pc 1 = some r' → vm'.Room →
        currentMemory vm' = .ok () ((vm'.skip 1).pushed ((BitVec.ofNat 32
          (vm.memory.length / wasmPageSize + (n.setWidth 32).toNat)).signExtend 64))) := by
  obtain ⟨hpos, hbytes⟩ := growBytes_of_lt hn
  refine ⟨_, by rw [growMemory_apply hr hs, if_neg hpos], by simp [VM.pushed, hbytes], ?_, ?_⟩
  · simp [VM.pushed, VM.popped, VM.withMemory, VM.skip, OperandStack.push, hs]
  · intro hr' room
    rw [currentMemory_apply hr' room]
    simp [VM.pushed, hbytes, wasmPageSize, Nat.add_mul_div_right]

example :
    ∃ vm', growMemory (VM.running [2] [0] []) = .ok () vm' ∧
      vm'.memory = List.replicate (2 * wasmPageSize) 0 ∧ vm'.ctx.stack.items = [0] := by
  obtain ⟨vm', h, hm, hs, -⟩ := @growMemory_appends_pages (VM.running [2] [0] []) [0] 2 [] [0]
    rfl rfl (by decide)
  exact ⟨vm', h, by simpa using hm, by simpa using hs⟩

/-- The byte count `n * 65536` is an `int32`: at `n = 65536` it wraps to `0`, and the handler
reports success, pushing the old page count, with memory unchanged; at `n = 32768` it is
negative and `make` panics. -/
theorem growMemory_wraps_at_65536_pages :
    (∃ vm', growMemory (VM.running [65536] [0] []) = .ok () vm' ∧ vm'.memory = [] ∧
      vm'.ctx.stack.items = [0]) ∧
    ∃ vm', growMemory (VM.running [32768] [0] []) = .error .makesliceLenOutOfRange vm' :=
  ⟨⟨_, rfl, rfl, rfl⟩, _, rfl⟩

end Grow

end Wagon
