import Wagon.Machine

/-! # Integer operators

The `int32` and `int64` handlers of `exec`. Each pops its operands with the typed pop
helpers, applies a Go operator and pushes the result with a typed push helper. Go's
integer division panics on a zero divisor and wraps `MinIntN / -1` to `MinIntN`; Go's shifts
take the whole count, so a count of at least the width shifts every bit out;
`bits.RotateLeft` reduces its count modulo the width. -/

namespace Wagon

section GoOps

variable {n : Nat}

/-- Go's integer `/` and `%`: a zero divisor panics with the runtime's
"integer divide by zero"; otherwise `op` gives the wrapped result. -/
def goDivide (op : BitVec n → BitVec n → BitVec n) (x y : BitVec n) : Exec (BitVec n) :=
  if y = 0 then throw .integerDivideByZero else pure (op x y)

/-- `x / y` on `intN`: the quotient truncated toward zero, wrapped to `n` bits. -/
def goDivS : BitVec n → BitVec n → Exec (BitVec n) :=
  goDivide fun x y => BitVec.ofInt n (x.toInt.tdiv y.toInt)

/-- `x % y` on `intN`: the remainder of the truncated quotient, with the sign of `x`. -/
def goRemS : BitVec n → BitVec n → Exec (BitVec n) :=
  goDivide fun x y => BitVec.ofInt n (x.toInt.tmod y.toInt)

def goDivU : BitVec n → BitVec n → Exec (BitVec n) := goDivide (· / ·)

def goRemU : BitVec n → BitVec n → Exec (BitVec n) := goDivide (· % ·)

/-- `bits.RotateLeft32` and `bits.RotateLeft64` at an `int` count `k`:
`s := uint(k) & (n-1)` and `x<<s | x>>(n-s)`. -/
def bitsRotateLeft (x : BitVec n) (k : BitVec 64) : BitVec n :=
  x <<< (k.toNat % n) ||| x >>> (n - k.toNat % n)

/-- `bits.LeadingZeros`: the zero bits above the highest one bit. -/
def leadingZeros (x : BitVec n) : Nat :=
  ((List.range n).reverse.takeWhile fun i => !x.getLsbD i).length

/-- `bits.TrailingZeros`: the zero bits below the lowest one bit. -/
def trailingZeros (x : BitVec n) : Nat :=
  ((List.range n).takeWhile fun i => !x.getLsbD i).length

def onesCount (x : BitVec n) : Nat :=
  (List.range n).countP fun i => x.getLsbD i

end GoOps

section Shapes

variable {α β γ : Type}

def unop (pop : Exec α) (op : α → β) (push : β → Exec Unit) : Exec Unit := do
  push (op (← pop))

/-- Two pops and a push: `pop₁` takes the top slot, `pop₂` the slot below it, and `op`
receives them in the order they were popped. -/
def binop (pop₁ : Exec α) (pop₂ : Exec β) (op : α → β → γ) (push : γ → Exec Unit) :
    Exec Unit := do
  let x ← pop₁
  let y ← pop₂
  push (op x y)

/-- `v2 := pop(); v1 := pop(); push(v1 op v2)` for an `op` that may panic. -/
def divop (pop : Exec α) (op : α → α → Exec α) (push : α → Exec Unit) : Exec Unit := do
  let v2 ← pop
  let v1 ← pop
  push (← op v1 v2)

end Shapes

def i32Clz : Exec Unit := unop popUint32 (fun v1 => BitVec.ofNat 64 (leadingZeros v1)) pushUint64
def i32Ctz : Exec Unit := unop popUint32 (fun v1 => BitVec.ofNat 64 (trailingZeros v1)) pushUint64
def i32Popcnt : Exec Unit := unop popUint32 (fun v1 => BitVec.ofNat 64 (onesCount v1)) pushUint64
def i32Add : Exec Unit := binop popUint32 popUint32 (fun v1 v2 => v1 + v2) pushUint32
def i32Sub : Exec Unit := binop popUint32 popUint32 (fun v2 v1 => v1 - v2) pushUint32
def i32Mul : Exec Unit := binop popUint32 popUint32 (fun v2 v1 => v1 * v2) pushUint32
def i32DivS : Exec Unit := divop popInt32 goDivS pushInt32
def i32DivU : Exec Unit := divop popUint32 goDivU pushUint32
def i32RemS : Exec Unit := divop popInt32 goRemS pushInt32
def i32RemU : Exec Unit := divop popUint32 goRemU pushUint32
def i32And : Exec Unit := binop popUint32 popUint32 (fun v2 v1 => v1 &&& v2) pushUint32
def i32Or : Exec Unit := binop popUint32 popUint32 (fun v2 v1 => v1 ||| v2) pushUint32
def i32Xor : Exec Unit := binop popUint32 popUint32 (fun v2 v1 => v1 ^^^ v2) pushUint32
def i32Shl : Exec Unit := binop popUint32 popUint32 (fun v2 v1 => v1 <<< v2.toNat) pushUint32
def i32ShrS : Exec Unit :=
  binop popUint32 popInt32 (fun v2 v1 => v1.sshiftRight v2.toNat) pushInt32
def i32ShrU : Exec Unit := binop popUint32 popUint32 (fun v2 v1 => v1 >>> v2.toNat) pushUint32
def i32Rotl : Exec Unit :=
  binop popUint32 popUint32 (fun v2 v1 => bitsRotateLeft v1 (v2.setWidth 64)) pushUint32
def i32Rotr : Exec Unit :=
  binop popUint32 popUint32 (fun v2 v1 => bitsRotateLeft v1 (-v2.setWidth 64)) pushUint32
def i32LeS : Exec Unit := binop popInt32 popInt32 (fun v2 v1 => v1.sle v2) pushBool
def i32LeU : Exec Unit := binop popUint32 popUint32 (fun v2 v1 => v1.ule v2) pushBool
def i32LtS : Exec Unit := binop popInt32 popInt32 (fun v2 v1 => v1.slt v2) pushBool
def i32LtU : Exec Unit := binop popUint32 popUint32 (fun v2 v1 => v1.ult v2) pushBool
def i32GtS : Exec Unit := binop popInt32 popInt32 (fun v2 v1 => v2.slt v1) pushBool
def i32GtU : Exec Unit := binop popUint32 popUint32 (fun v2 v1 => v2.ult v1) pushBool
def i32GeS : Exec Unit := binop popInt32 popInt32 (fun v2 v1 => v2.sle v1) pushBool
def i32GeU : Exec Unit := binop popUint32 popUint32 (fun v2 v1 => v2.ule v1) pushBool
def i32Eqz : Exec Unit := unop popUint32 (fun val => val == 0) pushBool
def i32Eq : Exec Unit := binop popUint32 popUint32 (fun arg1 arg2 => arg1 == arg2) pushBool
def i32Ne : Exec Unit := binop popUint32 popUint32 (fun v2 v1 => v1 != v2) pushBool

def i64Clz : Exec Unit := unop popUint64 (fun v => BitVec.ofNat 64 (leadingZeros v)) pushUint64
def i64Ctz : Exec Unit := unop popUint64 (fun v => BitVec.ofNat 64 (trailingZeros v)) pushUint64
def i64Popcnt : Exec Unit := unop popUint64 (fun v => BitVec.ofNat 64 (onesCount v)) pushUint64
def i64Add : Exec Unit := binop popUint64 popUint64 (· + ·) pushUint64
def i64Sub : Exec Unit := binop popUint64 popUint64 (fun v2 v1 => v1 - v2) pushUint64
def i64Mul : Exec Unit := binop popUint64 popUint64 (· * ·) pushUint64
def i64DivS : Exec Unit := divop popInt64 goDivS pushInt64
def i64DivU : Exec Unit := divop popUint64 goDivU pushUint64
def i64RemS : Exec Unit := divop popInt64 goRemS pushInt64
def i64RemU : Exec Unit := divop popUint64 goRemU pushUint64
def i64And : Exec Unit := binop popUint64 popUint64 (· &&& ·) pushUint64
def i64Or : Exec Unit := binop popUint64 popUint64 (· ||| ·) pushUint64
def i64Xor : Exec Unit := binop popUint64 popUint64 (· ^^^ ·) pushUint64
def i64Shl : Exec Unit := binop popUint64 popUint64 (fun v2 v1 => v1 <<< v2.toNat) pushUint64
def i64ShrS : Exec Unit :=
  binop popUint64 popInt64 (fun v2 v1 => v1.sshiftRight v2.toNat) pushInt64
def i64ShrU : Exec Unit := binop popUint64 popUint64 (fun v2 v1 => v1 >>> v2.toNat) pushUint64
def i64Rotl : Exec Unit := binop popInt64 popUint64 (fun v2 v1 => bitsRotateLeft v1 v2) pushUint64
def i64Rotr : Exec Unit :=
  binop popInt64 popUint64 (fun v2 v1 => bitsRotateLeft v1 (-v2)) pushUint64
def i64Eq : Exec Unit := binop popUint64 popUint64 (· == ·) pushBool
def i64Eqz : Exec Unit := unop popUint64 (· == 0) pushBool
def i64Ne : Exec Unit := binop popUint64 popUint64 (· != ·) pushBool
def i64LtS : Exec Unit := binop popInt64 popInt64 (fun v2 v1 => v1.slt v2) pushBool
def i64LtU : Exec Unit := binop popUint64 popUint64 (fun v2 v1 => v1.ult v2) pushBool
def i64GtS : Exec Unit := binop popInt64 popInt64 (fun v2 v1 => v2.slt v1) pushBool
def i64GtU : Exec Unit := binop popUint64 popUint64 (fun v2 v1 => v2.ult v1) pushBool
def i64LeU : Exec Unit := binop popUint64 popUint64 (fun v2 v1 => v1.ule v2) pushBool
def i64LeS : Exec Unit := binop popInt64 popInt64 (fun v2 v1 => v1.sle v2) pushBool
def i64GeS : Exec Unit := binop popInt64 popInt64 (fun v2 v1 => v2.sle v1) pushBool
def i64GeU : Exec Unit := binop popUint64 popUint64 (fun v2 v1 => v2.ule v1) pushBool

section Apply

variable {α β γ : Type} {vm : VM} {x y : Word} {rest : List Word}
  {dec₁ : Word → α} {dec₂ : Word → β}

theorem unop_apply {pop : Exec α} {op : α → β} {push : β → Exec Unit} {enc : β → Word}
    (h : PopsAs pop dec₁) (hp : PushesAs push enc) (hs : vm.ctx.stack.items = x :: rest) :
    unop pop op push vm = .ok () (vm.popped.pushed (enc (op (dec₁ x)))) := by
  unfold unop
  rw [bind_ok (h hs)]
  exact hp _ (room_popped hs)

theorem binop_apply {pop₁ : Exec α} {pop₂ : Exec β} {op : α → β → γ} {push : γ → Exec Unit}
    {enc : γ → Word} (h₁ : PopsAs pop₁ dec₁) (h₂ : PopsAs pop₂ dec₂) (hp : PushesAs push enc)
    (hs : vm.ctx.stack.items = x :: y :: rest) :
    binop pop₁ pop₂ op push vm = .ok () (vm.popped.popped.pushed (enc (op (dec₁ x) (dec₂ y)))) := by
  have hs' : vm.popped.ctx.stack.items = y :: rest := by simp [hs]
  unfold binop
  rw [bind_ok (h₁ hs), bind_ok (h₂ hs')]
  exact hp _ (room_popped hs')

theorem divop_goDivide_apply {n : Nat} {dec : Word → BitVec n} {pop : Exec (BitVec n)}
    {f : BitVec n → BitVec n → BitVec n} {push : BitVec n → Exec Unit} {enc : BitVec n → Word}
    (h : PopsAs pop dec) (hp : PushesAs push enc) (hs : vm.ctx.stack.items = y :: x :: rest) :
    divop pop (goDivide f) push vm =
      if dec y = 0 then .error .integerDivideByZero vm.popped.popped
      else .ok () (vm.popped.popped.pushed (enc (f (dec x) (dec y)))) := by
  have hs' : vm.popped.ctx.stack.items = x :: rest := by simp [hs]
  unfold divop
  rw [bind_ok (h hs), bind_ok (h hs')]
  by_cases hy : dec y = 0
  · simp only [goDivide, hy, if_true]
    rfl
  · simp only [goDivide, hy, if_false]
    exact hp _ (room_popped hs')

/-- Go wraps `MinIntN / -1` to `MinIntN` instead of panicking, and the handlers add no
check: `i32.div_s` and `i64.div_s` of the minimum by `-1` push the minimum. -/
theorem signed_division_overflow_wraps :
    (∃ vm', i32DivS (VM.running [-1, 0xFFFFFFFF80000000] [] []) = .ok () vm' ∧
      vm'.ctx.stack.items = [0xFFFFFFFF80000000]) ∧
    ∃ vm', i64DivS (VM.running [-1, 0x8000000000000000] [] []) = .ok () vm' ∧
      vm'.ctx.stack.items = [0x8000000000000000] :=
  ⟨⟨_, rfl, rfl⟩, ⟨_, rfl, rfl⟩⟩

end Apply

section Rotate

theorem rotateLeft_eq_rotateRight {w m r : Nat} (x : BitVec w) (h : m % w = (w - r % w) % w) :
    x.rotateLeft m = x.rotateRight r := by
  rcases Nat.eq_zero_or_pos w with rfl | hw
  · exact Subsingleton.elim _ _
  have := Nat.mod_lt r hw
  apply BitVec.eq_of_getLsbD_eq
  intro i
  simp only [BitVec.getLsbD_rotateLeft, BitVec.getLsbD_rotateRight, h]
  by_cases hr : r % w = 0
  · by_cases hi : (i : Nat) < w <;> simp [hr, hi]
  · rw [Nat.mod_eq_of_lt (by omega : w - r % w < w), show w - (w - r % w) = r % w by omega]

/-- `bits.RotateLeft` at a negated count rotates right, for the widths whose masks divide
`2^64`. -/
theorem bitsRotateLeft_neg {n : Nat} (hn : n = 32 ∨ n = 64) (x : BitVec n) (k : BitVec 64) :
    bitsRotateLeft x (-k) = x.rotateRight k.toNat := by
  apply rotateLeft_eq_rotateRight
  have := k.isLt
  rw [BitVec.toNat_neg]
  rcases hn with rfl | rfl <;> omega

variable {vm : VM} {k v : Word} {rest : List Word}

theorem rotate_handlers_apply (hs : vm.ctx.stack.items = k :: v :: rest) :
    i32Rotl vm = .ok () (vm.popped.popped.pushed
      (((v.setWidth 32).rotateLeft ((k.setWidth 32).toNat % 32)).setWidth 64)) ∧
    i32Rotr vm = .ok () (vm.popped.popped.pushed
      (((v.setWidth 32).rotateRight ((k.setWidth 32).toNat % 32)).setWidth 64)) ∧
    i64Rotl vm = .ok () (vm.popped.popped.pushed (v.rotateLeft (k.toNat % 64))) ∧
    i64Rotr vm = .ok () (vm.popped.popped.pushed (v.rotateRight (k.toNat % 64))) := by
  refine ⟨(binop_apply popUint32_popsAs popUint32_popsAs pushUint32_pushesAs hs).trans ?_,
    (binop_apply popUint32_popsAs popUint32_popsAs pushUint32_pushesAs hs).trans ?_,
    (binop_apply popUint64_popsAs popUint64_popsAs pushUint64_pushesAs hs).trans ?_,
    (binop_apply popUint64_popsAs popUint64_popsAs pushUint64_pushesAs hs).trans ?_⟩ <;>
  simp only [bitsRotateLeft_neg (.inl rfl), bitsRotateLeft_neg (.inr rfl),
    BitVec.toNat_setWidth' (show 32 ≤ 64 by decide), BitVec.rotateRight_mod_eq_rotateRight,
    BitVec.rotateLeft_mod_eq_rotateLeft, id] <;>
  rfl

/-- Go's shifts take the whole count, so `i32.shl` by `32` shifts the operand out where a
shift by `0` keeps it. -/
theorem i32Shl_by_32 :
    (∃ vm', i32Shl (VM.running [32, 1] [] []) = .ok () vm' ∧ vm'.ctx.stack.items = [0]) ∧
    ∃ vm', i32Shl (VM.running [0, 1] [] []) = .ok () vm' ∧ vm'.ctx.stack.items = [1] :=
  ⟨⟨_, rfl, rfl⟩, ⟨_, rfl, rfl⟩⟩

end Rotate

inductive IntOp where
  | i32Clz | i32Ctz | i32Popcnt | i32Add | i32Sub | i32Mul
  | i32DivS | i32DivU | i32RemS | i32RemU | i32And | i32Or
  | i32Xor | i32Shl | i32ShrS | i32ShrU | i32Rotl | i32Rotr
  | i32LeS | i32LeU | i32LtS | i32LtU | i32GtS | i32GtU
  | i32GeS | i32GeU | i32Eqz | i32Eq | i32Ne
  | i64Clz | i64Ctz | i64Popcnt | i64Add | i64Sub | i64Mul
  | i64DivS | i64DivU | i64RemS | i64RemU | i64And | i64Or
  | i64Xor | i64Shl | i64ShrS | i64ShrU | i64Rotl | i64Rotr
  | i64Eq | i64Eqz | i64Ne | i64LtS | i64LtU | i64GtS
  | i64GtU | i64LeU | i64LeS | i64GeS | i64GeU

def IntOp.handler : IntOp → Exec Unit
  | .i32Clz => Wagon.i32Clz
  | .i32Ctz => Wagon.i32Ctz
  | .i32Popcnt => Wagon.i32Popcnt
  | .i32Add => Wagon.i32Add
  | .i32Sub => Wagon.i32Sub
  | .i32Mul => Wagon.i32Mul
  | .i32DivS => Wagon.i32DivS
  | .i32DivU => Wagon.i32DivU
  | .i32RemS => Wagon.i32RemS
  | .i32RemU => Wagon.i32RemU
  | .i32And => Wagon.i32And
  | .i32Or => Wagon.i32Or
  | .i32Xor => Wagon.i32Xor
  | .i32Shl => Wagon.i32Shl
  | .i32ShrS => Wagon.i32ShrS
  | .i32ShrU => Wagon.i32ShrU
  | .i32Rotl => Wagon.i32Rotl
  | .i32Rotr => Wagon.i32Rotr
  | .i32LeS => Wagon.i32LeS
  | .i32LeU => Wagon.i32LeU
  | .i32LtS => Wagon.i32LtS
  | .i32LtU => Wagon.i32LtU
  | .i32GtS => Wagon.i32GtS
  | .i32GtU => Wagon.i32GtU
  | .i32GeS => Wagon.i32GeS
  | .i32GeU => Wagon.i32GeU
  | .i32Eqz => Wagon.i32Eqz
  | .i32Eq => Wagon.i32Eq
  | .i32Ne => Wagon.i32Ne
  | .i64Clz => Wagon.i64Clz
  | .i64Ctz => Wagon.i64Ctz
  | .i64Popcnt => Wagon.i64Popcnt
  | .i64Add => Wagon.i64Add
  | .i64Sub => Wagon.i64Sub
  | .i64Mul => Wagon.i64Mul
  | .i64DivS => Wagon.i64DivS
  | .i64DivU => Wagon.i64DivU
  | .i64RemS => Wagon.i64RemS
  | .i64RemU => Wagon.i64RemU
  | .i64And => Wagon.i64And
  | .i64Or => Wagon.i64Or
  | .i64Xor => Wagon.i64Xor
  | .i64Shl => Wagon.i64Shl
  | .i64ShrS => Wagon.i64ShrS
  | .i64ShrU => Wagon.i64ShrU
  | .i64Rotl => Wagon.i64Rotl
  | .i64Rotr => Wagon.i64Rotr
  | .i64Eq => Wagon.i64Eq
  | .i64Eqz => Wagon.i64Eqz
  | .i64Ne => Wagon.i64Ne
  | .i64LtS => Wagon.i64LtS
  | .i64LtU => Wagon.i64LtU
  | .i64GtS => Wagon.i64GtS
  | .i64GtU => Wagon.i64GtU
  | .i64LeU => Wagon.i64LeU
  | .i64LeS => Wagon.i64LeS
  | .i64GeS => Wagon.i64GeS
  | .i64GeU => Wagon.i64GeU

def IntOp.sig : IntOp → List ValueType × List ValueType
  | .i32Clz | .i32Ctz | .i32Popcnt | .i32Eqz => ([.i32], [.i32])
  | .i32Add | .i32Sub | .i32Mul | .i32DivS | .i32DivU | .i32RemS | .i32RemU | .i32And
  | .i32Or | .i32Xor | .i32Shl | .i32ShrS | .i32ShrU | .i32Rotl | .i32Rotr | .i32LeS
  | .i32LeU | .i32LtS | .i32LtU | .i32GtS | .i32GtU | .i32GeS | .i32GeU | .i32Eq | .i32Ne
    => ([.i32, .i32], [.i32])
  | .i64Clz | .i64Ctz | .i64Popcnt => ([.i64], [.i64])
  | .i64Add | .i64Sub | .i64Mul | .i64DivS | .i64DivU | .i64RemS | .i64RemU | .i64And
  | .i64Or | .i64Xor | .i64Shl | .i64ShrS | .i64ShrU | .i64Rotl | .i64Rotr => ([.i64, .i64], [.i64])
  | .i64Eq | .i64Ne | .i64LtS | .i64LtU | .i64GtS | .i64GtU | .i64LeU | .i64LeS | .i64GeS
  | .i64GeU => ([.i64, .i64], [.i32])
  | .i64Eqz => ([.i64], [.i32])

end Wagon
