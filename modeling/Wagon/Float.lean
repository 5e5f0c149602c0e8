import Wagon.Numeric

/-! # Floating-point operators and conversions

The `float32` and `float64` handlers and the conversions between number types. Floats are
their IEEE-754 bit patterns. The rounding arithmetic of Go's float operators, of the `math`
functions and of the numeric conversions is a parameter `FloatOps`; the sign-bit
operations Go writes with bit masks (`math.Abs`, `math.Copysign`, negation) are written
out. No handler here panics, and Go's float-to-integer conversions do not panic either. -/

namespace Wagon

/-- IEEE-754 arithmetic on bit patterns, as Go's float operators, `math` functions and
conversions compute it. -/
structure FloatOps where
  add32 : BitVec 32 → BitVec 32 → BitVec 32
  sub32 : BitVec 32 → BitVec 32 → BitVec 32
  mul32 : BitVec 32 → BitVec 32 → BitVec 32
  div32 : BitVec 32 → BitVec 32 → BitVec 32
  eq32 : BitVec 32 → BitVec 32 → Bool
  lt32 : BitVec 32 → BitVec 32 → Bool
  le32 : BitVec 32 → BitVec 32 → Bool
  add64 : Word → Word → Word
  sub64 : Word → Word → Word
  mul64 : Word → Word → Word
  div64 : Word → Word → Word
  eq64 : Word → Word → Bool
  lt64 : Word → Word → Bool
  le64 : Word → Word → Bool
  /-- `math.Min`, `math.Max`, `math.Sqrt`, `math.Ceil`, `math.Floor`, `math.Trunc`. -/
  min64 : Word → Word → Word
  max64 : Word → Word → Word
  sqrt64 : Word → Word
  ceil64 : Word → Word
  floor64 : Word → Word
  trunc64 : Word → Word
  /-- `float64(f)` of a `float32` and `float32(f)` of a `float64`. -/
  promote : BitVec 32 → Word
  demote : Word → BitVec 32
  /-- Go's float-to-integer conversions. -/
  f32ToInt32 : BitVec 32 → BitVec 32
  f64ToInt32 : Word → BitVec 32
  f64ToUint32 : Word → BitVec 32
  f64ToInt64 : Word → Word
  f64ToUint64 : Word → Word
  /-- Go's integer-to-float conversions. -/
  int32ToF32 : BitVec 32 → BitVec 32
  uint32ToF32 : BitVec 32 → BitVec 32
  int64ToF32 : Word → BitVec 32
  uint64ToF32 : Word → BitVec 32
  int32ToF64 : BitVec 32 → Word
  uint32ToF64 : BitVec 32 → Word
  int64ToF64 : Word → Word
  uint64ToF64 : Word → Word
  deriving Inhabited

def signBit : Word := 0x8000000000000000

/-- `math.Abs`: clears the sign bit. -/
def mathAbs (x : Word) : Word := x &&& ~~~signBit

/-- `math.Copysign(f, sign)`: the magnitude of `f` with the sign bit of `sign`. -/
def mathCopysign (f sign : Word) : Word := f &&& ~~~signBit ||| sign &&& signBit

def half64 : Word := 0x3FE0000000000000

section Float32

variable (F : FloatOps)

def f32Abs : Exec Unit := unop popFloat32 (fun v1 => F.demote (mathAbs (F.promote v1))) pushFloat32
def f32Neg : Exec Unit := unop popFloat32 (fun v1 => v1 ^^^ 0x80000000) pushFloat32
def f32Ceil : Exec Unit := unop popFloat32 (fun v1 => F.demote (F.ceil64 (F.promote v1))) pushFloat32
def f32Floor : Exec Unit :=
  unop popFloat32 (fun v1 => F.demote (F.floor64 (F.promote v1))) pushFloat32
def f32Trunc : Exec Unit :=
  unop popFloat32 (fun v1 => F.demote (F.trunc64 (F.promote v1))) pushFloat32
/-- `float32(int32(f + float32(math.Copysign(0.5, float64(f)))))`. -/
def f32Nearest : Exec Unit :=
  unop popFloat32
    (fun f => F.int32ToF32 (F.f32ToInt32 (F.add32 f (F.demote (mathCopysign half64 (F.promote f))))))
    pushFloat32
def f32Sqrt : Exec Unit := unop popFloat32 (fun v1 => F.demote (F.sqrt64 (F.promote v1))) pushFloat32
def f32Add : Exec Unit := binop popFloat32 popFloat32 (fun v2 v1 => F.add32 v1 v2) pushFloat32
def f32Sub : Exec Unit := binop popFloat32 popFloat32 (fun v2 v1 => F.sub32 v1 v2) pushFloat32
def f32Mul : Exec Unit := binop popFloat32 popFloat32 (fun v2 v1 => F.mul32 v1 v2) pushFloat32
def f32Div : Exec Unit := binop popFloat32 popFloat32 (fun v2 v1 => F.div32 v1 v2) pushFloat32
def f32Min : Exec Unit :=
  binop popFloat32 popFloat32 (fun v2 v1 => F.demote (F.min64 (F.promote v1) (F.promote v2)))
    pushFloat32
def f32Max : Exec Unit :=
  binop popFloat32 popFloat32 (fun v2 v1 => F.demote (F.max64 (F.promote v1) (F.promote v2)))
    pushFloat32
def f32Copysign : Exec Unit :=
  binop popFloat32 popFloat32
    (fun v2 v1 => F.demote (mathCopysign (F.promote v1) (F.promote v2))) pushFloat32
def f32Eq : Exec Unit := binop popFloat32 popFloat32 (fun v2 v1 => F.eq32 v1 v2) pushBool
def f32Ne : Exec Unit := binop popFloat32 popFloat32 (fun v2 v1 => !F.eq32 v1 v2) pushBool
def f32Lt : Exec Unit := binop popFloat32 popFloat32 (fun v2 v1 => F.lt32 v1 v2) pushBool
def f32Gt : Exec Unit := binop popFloat32 popFloat32 (fun v2 v1 => F.lt32 v2 v1) pushBool
def f32Le : Exec Unit := binop popFloat32 popFloat32 (fun v2 v1 => F.le32 v1 v2) pushBool
def f32Ge : Exec Unit := binop popFloat32 popFloat32 (fun v2 v1 => F.le32 v2 v1) pushBool

end Float32

-- Several handlers pass two pops straight to a Go call, whose arguments are evaluated left to
-- right: the first argument is then the operand on top of the stack.

section Float64

variable (F : FloatOps)

def f64Abs : Exec Unit := unop popFloat64 mathAbs pushFloat64
def f64Neg : Exec Unit := unop popFloat64 (fun v => v ^^^ signBit) pushFloat64
def f64Ceil : Exec Unit := unop popFloat64 F.ceil64 pushFloat64
def f64Floor : Exec Unit := unop popFloat64 F.floor64 pushFloat64
def f64Trunc : Exec Unit := unop popFloat64 F.trunc64 pushFloat64
/-- `float64(int64(f + math.Copysign(0.5, f)))`. -/
def f64Nearest : Exec Unit :=
  unop popFloat64 (fun f => F.int64ToF64 (F.f64ToInt64 (F.add64 f (mathCopysign half64 f))))
    pushFloat64
def f64Sqrt : Exec Unit := unop popFloat64 F.sqrt64 pushFloat64
def f64Add : Exec Unit := binop popFloat64 popFloat64 F.add64 pushFloat64
def f64Sub : Exec Unit := binop popFloat64 popFloat64 (fun v2 v1 => F.sub64 v1 v2) pushFloat64
def f64Mul : Exec Unit := binop popFloat64 popFloat64 F.mul64 pushFloat64
def f64Div : Exec Unit := binop popFloat64 popFloat64 (fun v2 v1 => F.div64 v1 v2) pushFloat64
def f64Min : Exec Unit := binop popFloat64 popFloat64 F.min64 pushFloat64
def f64Max : Exec Unit := binop popFloat64 popFloat64 F.max64 pushFloat64
def f64Copysign : Exec Unit := binop popFloat64 popFloat64 mathCopysign pushFloat64
def f64Eq : Exec Unit := binop popFloat64 popFloat64 F.eq64 pushBool
def f64Ne : Exec Unit := binop popFloat64 popFloat64 (fun x y => !F.eq64 x y) pushBool
def f64Lt : Exec Unit := binop popFloat64 popFloat64 (fun v2 v1 => F.lt64 v1 v2) pushBool
def f64Gt : Exec Unit := binop popFloat64 popFloat64 (fun v2 v1 => F.lt64 v2 v1) pushBool
def f64Le : Exec Unit := binop popFloat64 popFloat64 (fun v2 v1 => F.le64 v1 v2) pushBool
def f64Ge : Exec Unit := binop popFloat64 popFloat64 (fun v2 v1 => F.le64 v2 v1) pushBool

end Float64

-- `math.Abs`, `math.Copysign` and negation act on the bit pattern, NaN payloads included. The
-- `float32` forms of `abs` and `copysign` go through `float64` and back, which `FloatOps`
-- leaves open.

section Sign

theorem signBit_eq_twoPow : signBit = BitVec.twoPow 64 63 := by decide

-- Every bit but the sign bit of the first operand stays: `math.Abs` clears the sign bit,
-- negation flips it, and `math.Copysign` takes it from its second argument.

theorem getLsbD_mathAbs (x : Word) (i : Nat) :
    (mathAbs x).getLsbD i = (decide (i ≠ 63) && x.getLsbD i) := by
  rcases Nat.lt_or_ge i 64 with h | h
  · by_cases hi : i = 63
    · subst hi; simp [mathAbs, signBit_eq_twoPow]
    · simp [mathAbs, signBit_eq_twoPow, hi, Ne.symm hi, h]
  · simp [BitVec.getLsbD_ge, h]

theorem getLsbD_xor_signBit (x : Word) (i : Nat) :
    (x ^^^ signBit).getLsbD i = (decide (i = 63) ^^ x.getLsbD i) := by
  by_cases hi : i = 63
  · subst hi; simp [signBit_eq_twoPow]
  · simp [signBit_eq_twoPow, hi, Ne.symm hi]

theorem getLsbD_mathCopysign (x y : Word) (i : Nat) :
    (mathCopysign x y).getLsbD i = if i = 63 then y.getLsbD i else x.getLsbD i := by
  rcases Nat.lt_or_ge i 64 with h | h
  · by_cases hi : i = 63
    · subst hi; simp [mathCopysign, signBit_eq_twoPow]
    · simp [mathCopysign, signBit_eq_twoPow, hi, Ne.symm hi, h]
  · simp [BitVec.getLsbD_ge, h, show i ≠ 63 by omega]

theorem sign_ops_twice (x y : Word) :
    (x ^^^ signBit) ^^^ signBit = x ∧ mathAbs (mathAbs x) = mathAbs x ∧
      mathCopysign (mathCopysign x y) y = mathCopysign x y := by
  refine ⟨?_, ?_, ?_⟩ <;> apply BitVec.eq_of_getLsbD_eq <;> intro i <;>
    by_cases hi : (i : Nat) = 63 <;>
    simp [getLsbD_mathAbs, getLsbD_xor_signBit, getLsbD_mathCopysign, hi]

variable {vm : VM} {x y : Word} {rest : List Word}

theorem sign_handlers_apply (hs : vm.ctx.stack.items = x :: rest) :
    f64Abs vm = .ok () (vm.popped.pushed (mathAbs x)) ∧
    f64Neg vm = .ok () (vm.popped.pushed (x ^^^ signBit)) ∧
    f32Neg vm = .ok () (vm.popped.pushed ((x.setWidth 32 ^^^ 0x80000000).setWidth 64)) :=
  ⟨unop_apply popUint64_popsAs pushUint64_pushesAs hs,
    unop_apply popUint64_popsAs pushUint64_pushesAs hs,
    unop_apply popUint32_popsAs pushUint32_pushesAs hs⟩

/-- `math.Copysign(vm.popFloat64(), vm.popFloat64())` evaluates its arguments left to right:
the magnitude comes from the operand on top of the stack and the sign from the one below, the
reverse of `f32.copysign`, which pops into `v2` and `v1` first. -/
theorem f64Copysign_apply (hs : vm.ctx.stack.items = y :: x :: rest) :
    f64Copysign vm = .ok () (vm.popped.popped.pushed (mathCopysign y x)) :=
  binop_apply popUint64_popsAs popUint64_popsAs pushUint64_pushesAs hs

/-- `f64.copysign` with `x = 1.0` pushed first and `y = -2.0` on top pushes `2.0`, the
magnitude of `y` with the sign of `x`, not `-1.0`. -/
theorem f64Copysign_swaps_operands :
    ∃ vm', f64Copysign (VM.running [0xC000000000000000, 0x3FF0000000000000] [] []) = .ok () vm' ∧
      vm'.ctx.stack.items = [0x4000000000000000] :=
  ⟨_, rfl, rfl⟩

end Sign

section Conversion

variable (F : FloatOps)

def i32Wrapi64 : Exec Unit := unop popUint64 (fun v1 => v1.setWidth 32) pushUint32
def i32TruncSF32 : Exec Unit :=
  unop popFloat32 (fun v1 => F.f64ToInt32 (F.trunc64 (F.promote v1))) pushInt32
def i32TruncUF32 : Exec Unit :=
  unop popFloat32 (fun v1 => F.f64ToUint32 (F.trunc64 (F.promote v1))) pushUint32
def i32TruncSF64 : Exec Unit := unop popFloat64 (fun v1 => F.f64ToInt32 (F.trunc64 v1)) pushInt32
def i32TruncUF64 : Exec Unit := unop popFloat64 (fun v1 => F.f64ToUint32 (F.trunc64 v1)) pushUint32
def i64ExtendSI32 : Exec Unit := unop popInt32 (fun v1 => v1.signExtend 64) pushInt64
def i64ExtendUI32 : Exec Unit := unop popUint32 (fun v1 => v1.setWidth 64) pushUint64
def i64TruncSF32 : Exec Unit :=
  unop popFloat32 (fun v1 => F.f64ToInt64 (F.trunc64 (F.promote v1))) pushInt64
def i64TruncUF32 : Exec Unit :=
  unop popFloat32 (fun v1 => F.f64ToUint64 (F.trunc64 (F.promote v1))) pushUint64
def i64TruncSF64 : Exec Unit := unop popFloat64 (fun v1 => F.f64ToInt64 (F.trunc64 v1)) pushInt64
def i64TruncUF64 : Exec Unit := unop popFloat64 (fun v1 => F.f64ToUint64 (F.trunc64 v1)) pushUint64
def f32ConvertSI32 : Exec Unit := unop popInt32 F.int32ToF32 pushFloat32
def f32ConvertUI32 : Exec Unit := unop popUint32 F.uint32ToF32 pushFloat32
def f32ConvertSI64 : Exec Unit := unop popInt64 F.int64ToF32 pushFloat32
def f32ConvertUI64 : Exec Unit := unop popUint64 F.uint64ToF32 pushFloat32
def f32DemoteF64 : Exec Unit := unop popFloat64 F.demote pushFloat32
def f64ConvertSI32 : Exec Unit := unop popInt32 F.int32ToF64 pushFloat64
def f64ConvertUI32 : Exec Unit := unop popUint32 F.uint32ToF64 pushFloat64
def f64ConvertSI64 : Exec Unit := unop popInt64 F.int64ToF64 pushFloat64
def f64ConvertUI64 : Exec Unit := unop popUint64 F.uint64ToF64 pushFloat64
def f64PromoteF32 : Exec Unit := unop popFloat32 F.promote pushFloat64

end Conversion

inductive FloatOp where
  | f32Abs | f32Neg | f32Ceil | f32Floor | f32Trunc | f32Nearest
  | f32Sqrt | f32Add | f32Sub | f32Mul | f32Div | f32Min
  | f32Max | f32Copysign | f32Eq | f32Ne | f32Lt | f32Gt
  | f32Le | f32Ge | f64Abs | f64Neg | f64Ceil | f64Floor
  | f64Trunc | f64Nearest | f64Sqrt | f64Add | f64Sub | f64Mul
  | f64Div | f64Min | f64Max | f64Copysign | f64Eq | f64Ne
  | f64Lt | f64Gt | f64Le | f64Ge

def FloatOp.handler (F : FloatOps) : FloatOp → Exec Unit
  | .f32Abs => Wagon.f32Abs F
  | .f32Neg => Wagon.f32Neg
  | .f32Ceil => Wagon.f32Ceil F
  | .f32Floor => Wagon.f32Floor F
  | .f32Trunc => Wagon.f32Trunc F
  | .f32Nearest => Wagon.f32Nearest F
  | .f32Sqrt => Wagon.f32Sqrt F
  | .f32Add => Wagon.f32Add F
  | .f32Sub => Wagon.f32Sub F
  | .f32Mul => Wagon.f32Mul F
  | .f32Div => Wagon.f32Div F
  | .f32Min => Wagon.f32Min F
  | .f32Max => Wagon.f32Max F
  | .f32Copysign => Wagon.f32Copysign F
  | .f32Eq => Wagon.f32Eq F
  | .f32Ne => Wagon.f32Ne F
  | .f32Lt => Wagon.f32Lt F
  | .f32Gt => Wagon.f32Gt F
  | .f32Le => Wagon.f32Le F
  | .f32Ge => Wagon.f32Ge F
  | .f64Abs => Wagon.f64Abs
  | .f64Neg => Wagon.f64Neg
  | .f64Ceil => Wagon.f64Ceil F
  | .f64Floor => Wagon.f64Floor F
  | .f64Trunc => Wagon.f64Trunc F
  | .f64Nearest => Wagon.f64Nearest F
  | .f64Sqrt => Wagon.f64Sqrt F
  | .f64Add => Wagon.f64Add F
  | .f64Sub => Wagon.f64Sub F
  | .f64Mul => Wagon.f64Mul F
  | .f64Div => Wagon.f64Div F
  | .f64Min => Wagon.f64Min F
  | .f64Max => Wagon.f64Max F
  | .f64Copysign => Wagon.f64Copysign
  | .f64Eq => Wagon.f64Eq F
  | .f64Ne => Wagon.f64Ne F
  | .f64Lt => Wagon.f64Lt F
  | .f64Gt => Wagon.f64Gt F
  | .f64Le => Wagon.f64Le F
  | .f64Ge => Wagon.f64Ge F

def FloatOp.sig : FloatOp → List ValueType × List ValueType
  | .f32Abs | .f32Neg | .f32Ceil | .f32Floor | .f32Trunc | .f32Nearest | .f32Sqrt
    => ([.f32], [.f32])
  | .f32Add | .f32Sub | .f32Mul | .f32Div | .f32Min | .f32Max | .f32Copysign
    => ([.f32, .f32], [.f32])
  | .f32Eq | .f32Ne | .f32Lt | .f32Gt | .f32Le | .f32Ge => ([.f32, .f32], [.i32])
  | .f64Abs | .f64Neg | .f64Ceil | .f64Floor | .f64Trunc | .f64Nearest | .f64Sqrt
    => ([.f64], [.f64])
  | .f64Add | .f64Sub | .f64Mul | .f64Div | .f64Min | .f64Max | .f64Copysign
    => ([.f64, .f64], [.f64])
  | .f64Eq | .f64Ne | .f64Lt | .f64Gt | .f64Le | .f64Ge => ([.f64, .f64], [.i32])

inductive ConvOp where
  | i32Wrapi64 | i32TruncSF32 | i32TruncUF32 | i32TruncSF64 | i32TruncUF64 | i64ExtendSI32
  | i64ExtendUI32 | i64TruncSF32 | i64TruncUF32 | i64TruncSF64 | i64TruncUF64 | f32ConvertSI32
  | f32ConvertUI32 | f32ConvertSI64 | f32ConvertUI64 | f32DemoteF64 | f64ConvertSI32 | f64ConvertUI32
  | f64ConvertSI64 | f64ConvertUI64 | f64PromoteF32

def ConvOp.handler (F : FloatOps) : ConvOp → Exec Unit
  | .i32Wrapi64 => Wagon.i32Wrapi64
  | .i32TruncSF32 => Wagon.i32TruncSF32 F
  | .i32TruncUF32 => Wagon.i32TruncUF32 F
  | .i32TruncSF64 => Wagon.i32TruncSF64 F
  | .i32TruncUF64 => Wagon.i32TruncUF64 F
  | .i64ExtendSI32 => Wagon.i64ExtendSI32
  | .i64ExtendUI32 => Wagon.i64ExtendUI32
  | .i64TruncSF32 => Wagon.i64TruncSF32 F
  | .i64TruncUF32 => Wagon.i64TruncUF32 F
  | .i64TruncSF64 => Wagon.i64TruncSF64 F
  | .i64TruncUF64 => Wagon.i64TruncUF64 F
  | .f32ConvertSI32 => Wagon.f32ConvertSI32 F
  | .f32ConvertUI32 => Wagon.f32ConvertUI32 F
  | .f32ConvertSI64 => Wagon.f32ConvertSI64 F
  | .f32ConvertUI64 => Wagon.f32ConvertUI64 F
  | .f32DemoteF64 => Wagon.f32DemoteF64 F
  | .f64ConvertSI32 => Wagon.f64ConvertSI32 F
  | .f64ConvertUI32 => Wagon.f64ConvertUI32 F
  | .f64ConvertSI64 => Wagon.f64ConvertSI64 F
  | .f64ConvertUI64 => Wagon.f64ConvertUI64 F
  | .f64PromoteF32 => Wagon.f64PromoteF32 F

def ConvOp.sig : ConvOp → List ValueType × List ValueType
  | .i32Wrapi64 => ([.i64], [.i32])
  | .i32TruncSF32 | .i32TruncUF32 => ([.f32], [.i32])
  | .i32TruncSF64 | .i32TruncUF64 => ([.f64], [.i32])
  | .i64ExtendSI32 | .i64ExtendUI32 => ([.i32], [.i64])
  | .i64TruncSF32 | .i64TruncUF32 => ([.f32], [.i64])
  | .i64TruncSF64 | .i64TruncUF64 => ([.f64], [.i64])
  | .f32ConvertSI32 | .f32ConvertUI32 => ([.i32], [.f32])
  | .f32ConvertSI64 | .f32ConvertUI64 => ([.i64], [.f32])
  | .f32DemoteF64 => ([.f64], [.f32])
  | .f64ConvertSI32 | .f64ConvertUI32 => ([.i32], [.f64])
  | .f64ConvertSI64 | .f64ConvertUI64 => ([.i64], [.f64])
  | .f64PromoteF32 => ([.f32], [.f64])

end Wagon
