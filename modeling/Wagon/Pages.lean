import Wagon.Operation

/-! # Linear memory grows only by whole pages

Every operation on a VM keeps the length of linear memory, also when it panics part-way, except
`grow_memory`, which only appends zeroed pages. From `NewVM` on, memory is therefore a whole
number of pages that never shrinks. -/

namespace Wagon

theorem growBytes_dvd (n : Word) : wasmPageSize ∣ (growBytes n).toNat := by
  simp only [growBytes, BitVec.toNat_mul, BitVec.toNat_ofNat, BitVec.toNat_setWidth, wasmPageSize]
  omega

theorem growMemory_memory (vm : VM) :
    ∃ k, (resultVM (growMemory vm)).memory = vm.memory ++ List.replicate (k * wasmPageSize) 0 := by
  rcases hr : codeAt vm.ctx.code vm.ctx.pc 1 with _ | r
  · exact ⟨0, by rw [growMemory, bind_error (fetchInt8_error hr)]; simp [resultVM]⟩
  rcases hs : vm.ctx.stack.items with _ | ⟨n, rest⟩
  · have hs' : (vm.skip 1).ctx.stack.items = [] := hs
    refine ⟨0, ?_⟩
    rw [growMemory, bind_ok (fetchInt8_ok hr)]
    simp [bind_apply, EStateM.bind, get, getThe, MonadStateOf.get, EStateM.get, popInt32, popUint32,
      popUint64_error hs', resultVM]
  rw [growMemory_apply hr hs]
  split
  · exact ⟨0, by simp [resultVM]⟩
  · exact ⟨(growBytes n).toNat / wasmPageSize, by
      simp [resultVM, VM.pushed, VM.popped, VM.withMemory, Nat.div_mul_cancel (growBytes_dvd n)]⟩

/-- What one operation may do to linear memory `m`: keep its length, or leave what
`grow_memory` leaves when run on a VM holding `m`. -/
def GrowOrKeep (m m' : List Byte) : Prop :=
  m'.length = m.length ∨ ∃ vm : VM, vm.memory = m ∧ m' = (resultVM (growMemory vm)).memory

theorem GrowOrKeep.pages {m m' : List Byte} (h : GrowOrKeep m m') :
    m'.length = m.length ∨ ∃ k, m' = m ++ List.replicate (k * wasmPageSize) 0 := by
  rcases h with h | ⟨vm, rfl, rfl⟩
  · exact .inl h
  · exact .inr (growMemory_memory vm)

theorem operation_growOrKeep {decode : Byte → Instr} {F : FloatOps} {vm vm' : VM}
    (h : Operation decode F vm vm') : GrowOrKeep vm.memory vm'.memory := by
  rcases h.cases with h | ⟨vm₁, -, hm, rfl⟩ | ⟨-, h⟩ | rfl | rfl | ⟨b, rfl⟩ | rfl
  · exact .inl (congrArg Fixed.memoryLength h)
  · exact .inr ⟨vm₁, hm, rfl⟩
  · exact .inl (congrArg Fixed.memoryLength h)
  · exact .inl rfl
  · exact .inl rfl
  · exact .inl rfl
  · exact .inl (by rw [resultVM_commit]; split <;> rfl)

theorem newVM_memory {module : Module} {funcs : List Function} {pg debugStackDepth : Bool}
    {vm : VM} (h : newVM module funcs pg debugStackDepth = .ok vm) :
    vm.memory.length % wasmPageSize = 0 := by
  unfold newVM at h
  cases hm : initialMemory module with
  | error e => simp [hm, bind, Except.bind] at h
  | ok mem =>
    simp only [hm, bind, Except.bind] at h
    split at h
    · cases h
    · cases h
      unfold initialMemory at hm
      split at hm <;> cases hm
      · rfl
      · simp [goCopy_length, wasmPageSize]

theorem currentMemory_pushes_pages {vm vm' : VM}
    (hp : vm.memory.length / wasmPageSize < 2 ^ 31) (h : currentMemory vm = .ok () vm') :
    vm'.ctx.stack.items.head? = some (BitVec.ofNat 64 (vm.memory.length / wasmPageSize)) := by
  rcases hr : codeAt vm.ctx.code vm.ctx.pc 1 with _ | r
  · rw [currentMemory, bind_error (fetchInt8_error hr)] at h
    cases h
  by_cases room : vm.Room
  · rw [currentMemory_apply hr room] at h
    cases h
    generalize vm.memory.length / wasmPageSize = p at hp ⊢
    have hmsb : (BitVec.ofNat 32 p).msb = false := by
      simp only [BitVec.msb_eq_decide, BitVec.toNat_ofNat, decide_eq_false_iff_not, Nat.not_le]
      omega
    simp only [VM.pushed, OperandStack.push_items, List.head?_cons,
      BitVec.signExtend_eq_not_setWidth_not_of_msb_false hmsb,
      setWidth_ofNat_of_lt (show p < 2 ^ 32 by omega) (show 32 ≤ 64 by omega)]
  · have room' : ¬(vm.skip 1).Room := room
    rw [currentMemory, bind_ok (fetchInt8_ok hr)] at h
    simp [bind_apply, EStateM.bind, get, getThe, MonadStateOf.get, EStateM.get, pushInt32,
      pushUint64_error room'] at h

section Run

variable {decode : Byte → Instr} {F : FloatOps} {module : Module} {funcs : List Function}
  {pg debugStackDepth : Bool} {vm₀ vm vm' : VM}

/-- Along every run from `NewVM`, memory is a whole number of pages and never shrinks. -/
theorem run_memory (h₀ : newVM module funcs pg debugStackDepth = .ok vm₀)
    (hr : Relation.ReflTransGen (Operation decode F) vm₀ vm) :
    vm.memory.length % wasmPageSize = 0 ∧ vm₀.memory.length ≤ vm.memory.length := by
  induction hr with
  | refl => exact ⟨newVM_memory h₀, le_rfl⟩
  | tail _ ho ih =>
    rcases (operation_growOrKeep ho).pages with h | ⟨k, h⟩
    · rw [h]
      exact ih
    · rw [h, List.length_append, List.length_replicate]
      simp only [wasmPageSize] at ih ⊢
      omega

end Run

end Wagon
