import Wagon.Typing

/-! # Two runs that agree on what the handlers read

A handler reads a slot of a 32-bit type through its low half and a slot of a 64-bit type as
the whole word. A `SlotRel` relates the words two runs may hold in a slot of each type: related
words look the same to a handler, and every word that represents a value of the type is
related to itself. Two VMs agree at some slot types when they are equal outside their slots
and their slots are related at those types.

`Lockstep` says that a computation run on two agreeing VMs ends alike in both. This module
proves it of every `funcTable` handler, one lemma per shape of handler and one enumeration per
family, from the lemmas of the primitives they are built from. -/

namespace Wagon

/-- What a handler reads of a slot of type `t`: the low half of a 32-bit value,
zero-extended, or the whole word of a 64-bit one. -/
def ValueType.visible : ValueType → Word → Word
  | .i32, w | .f32, w => (w.setWidth 32).setWidth 64
  | .i64, w | .f64, w => w

/-- How a slot of type `t` may hold its value: as the word a handler reads of it, or, for an
`i32`, sign-extended from the low half. -/
def Rep (t : ValueType) (w : Word) : Prop :=
  w = t.visible w ∨ (t = .i32 ∧ w = (w.setWidth 32).signExtend 64)

instance (t : ValueType) (w : Word) : Decidable (Rep t w) := inferInstanceAs (Decidable (_ ∨ _))

section Rep

variable {t : ValueType}

@[simp] theorem rep_i64 (w : Word) : Rep .i64 w := .inl rfl
@[simp] theorem rep_f64 (w : Word) : Rep .f64 w := .inl rfl

@[simp] theorem rep_setWidth (v : BitVec 32) : Rep t (v.setWidth 64) := by
  left; cases t <;> simp [ValueType.visible]

@[simp] theorem rep_signExtend (v : BitVec 32) : Rep .i32 (v.signExtend 64) := by
  refine .inr ⟨rfl, congrArg _ ?_⟩
  ext i
  simp [BitVec.getLsbD_signExtend]

theorem rep_ofNat {k : Nat} (h : k < 2 ^ 32) : Rep t (BitVec.ofNat 64 k) := by
  left
  cases t <;> simp only [ValueType.visible] <;> apply BitVec.eq_of_toNat_eq <;> simp <;> omega

@[simp] theorem rep_bool (b : Bool) : Rep .i32 (if b then 1 else 0) := by
  left; cases b <;> decide

@[simp] theorem rep_zero : Rep t 0 := by
  simpa using rep_setWidth (t := t) 0

theorem leadingZeros_le {n : Nat} (x : BitVec n) : leadingZeros x ≤ n := by
  simpa using (@List.takeWhile_sublist _ (List.range n).reverse fun i => !x.getLsbD i).length_le

theorem trailingZeros_le {n : Nat} (x : BitVec n) : trailingZeros x ≤ n := by
  simpa using (@List.takeWhile_sublist _ (List.range n) fun i => !x.getLsbD i).length_le

theorem onesCount_le {n : Nat} (x : BitVec n) : onesCount x ≤ n := by
  simpa using @List.countP_le_length _ (fun i => x.getLsbD i) (List.range n)

@[simp] theorem rep_counts (x : BitVec 32) :
    Rep t (BitVec.ofNat 64 (leadingZeros x)) ∧ Rep t (BitVec.ofNat 64 (trailingZeros x)) ∧
      Rep t (BitVec.ofNat 64 (onesCount x)) :=
  ⟨rep_ofNat (by have := leadingZeros_le x; omega), rep_ofNat (by have := trailingZeros_le x; omega),
    rep_ofNat (by have := onesCount_le x; omega)⟩

end Rep

/-- A relation between the words two runs hold in a slot of each type: related words look the
same to a handler, and every representation of a value is related to itself. -/
structure SlotRel where
  rel : ValueType → Word → Word → Prop
  visible_eq : ∀ {t x y}, rel t x y → t.visible x = t.visible y
  refl : ∀ {t w}, Rep t w → rel t w w

namespace SlotRel

variable (S : SlotRel) {t : ValueType} {x y : Word}

theorem low (h : S.rel t x y) : x.setWidth 32 = y.setWidth 32 := by
  have := S.visible_eq h
  cases t <;> simp only [ValueType.visible] at this
  all_goals first
    | rw [this]
    | simpa using congrArg (BitVec.setWidth 32) this

theorem zero (t : ValueType) : S.rel t 0 0 := S.refl rep_zero

end SlotRel

/-- The words two runs hold in slots of types `ts` are related slot by slot. -/
inductive Slots (S : SlotRel) : List ValueType → List Word → List Word → Prop where
  | nil : Slots S [] [] []
  | cons {t : ValueType} {ts : List ValueType} {x y : Word} {xs ys : List Word} :
      S.rel t x y → Slots S ts xs ys → Slots S (t :: ts) (x :: xs) (y :: ys)

namespace Slots

variable {S : SlotRel} {ts us : List ValueType} {xs ys as bs : List Word}

theorem length_left (h : Slots S ts xs ys) : xs.length = ts.length := by
  induction h <;> simp [*]

theorem length_right (h : Slots S ts xs ys) : ys.length = ts.length := by
  induction h <;> simp [*]

theorem eq_nil (h : Slots S [] xs ys) : xs = [] ∧ ys = [] := by
  cases h; exact ⟨rfl, rfl⟩

theorem append (h : Slots S ts xs ys) (h' : Slots S us as bs) :
    Slots S (ts ++ us) (xs ++ as) (ys ++ bs) := by
  induction h with
  | nil => exact h'
  | cons hr _ ih => exact .cons hr ih

theorem split {zs ws : List Word} (h : Slots S (ts ++ us) zs ws) :
    ∃ xs ys as bs, zs = xs ++ as ∧ ws = ys ++ bs ∧ Slots S ts xs ys ∧ Slots S us as bs := by
  induction ts generalizing zs ws with
  | nil => exact ⟨[], [], zs, ws, rfl, rfl, .nil, h⟩
  | cons t ts ih =>
    cases h with
    | cons hr h =>
      obtain ⟨xs, ys, as, bs, rfl, rfl, hx, ha⟩ := ih h
      exact ⟨_, _, as, bs, rfl, rfl, .cons hr hx, ha⟩

theorem get {i : Nat} {t : ValueType} (h : Slots S ts xs ys) (ht : ts[i]? = some t) :
    ∃ x y, xs[i]? = some x ∧ ys[i]? = some y ∧ S.rel t x y := by
  induction h generalizing i with
  | nil => simp at ht
  | cons hr _ ih =>
    cases i with
    | zero =>
      cases Option.some.inj (List.getElem?_cons_zero.symm.trans ht)
      exact ⟨_, _, List.getElem?_cons_zero, List.getElem?_cons_zero, hr⟩
    | succ i => simpa only [List.getElem?_cons_succ] using ih (List.getElem?_cons_succ.symm.trans ht)

theorem set {i : Nat} {t : ValueType} {x y : Word} (h : Slots S ts xs ys) (ht : ts[i]? = some t)
    (hr : S.rel t x y) : Slots S ts (xs.set i x) (ys.set i y) := by
  induction h generalizing i with
  | nil => simp at ht
  | cons hr' hs ih =>
    cases i with
    | zero => cases Option.some.inj (List.getElem?_cons_zero.symm.trans ht); exact .cons hr hs
    | succ i => exact .cons hr' (ih (List.getElem?_cons_succ.symm.trans ht))

theorem replicate_zero (ts : List ValueType) :
    Slots S ts (List.replicate ts.length 0) (List.replicate ts.length 0) := by
  induction ts with
  | nil => exact .nil
  | cons t ts ih => exact .cons (S.zero t) ih

end Slots

def Context.erase (c : Context) : Context :=
  { c with
    stack := ⟨List.replicate c.stack.items.length 0, c.stack.cap, by simpa using c.stack.len_le_cap⟩
    locals := List.replicate c.locals.length 0 }

/-- The VM with every slot zeroed: what two runs that agree keep equal. -/
def VM.erase (vm : VM) : VM :=
  { vm with ctx := vm.ctx.erase, globals := List.replicate vm.globals.length 0 }

section Erase

variable {vm vm₁ vm₂ : VM}

@[simp] theorem VM.erase_skip (n : Nat) : (vm.skip n).erase = vm.erase.skip n := rfl

@[simp] theorem VM.erase_withMemory (m : List Byte) :
    (vm.withMemory m).erase = vm.erase.withMemory m := rfl

@[simp] theorem VM.erase_popped : vm.popped.erase = vm.erase.popped := by
  simp [VM.erase, VM.popped, Context.erase, OperandStack.drop, List.drop_replicate]

@[simp] theorem VM.erase_pushed (w : Word) : (vm.pushed w).erase = vm.erase.pushed 0 := by
  simp [VM.erase, VM.pushed, Context.erase, OperandStack.push, List.replicate_succ]

theorem VM.erase_withCtx (c : Context) :
    ({ vm with ctx := c } : VM).erase = { vm.erase with ctx := c.erase } := rfl

theorem VM.erase_withLocals {l : List Word} (h : l.length = vm.ctx.locals.length) :
    (vm.withLocals l).erase = vm.erase := by
  simp [VM.erase, VM.withLocals, Context.erase, h]

theorem VM.erase_withGlobals {g : List Word} (h : g.length = vm.globals.length) :
    (vm.withGlobals g).erase = vm.erase := by
  simp [VM.erase, VM.withGlobals, h]

structure SameOutside (vm₁ vm₂ : VM) : Prop where
  memory : vm₁.memory = vm₂.memory
  module : vm₁.module = vm₂.module
  funcs : vm₁.funcs = vm₂.funcs
  code : vm₁.ctx.code = vm₂.ctx.code
  pc : vm₁.ctx.pc = vm₂.ctx.pc
  curFunc : vm₁.ctx.curFunc = vm₂.ctx.curFunc
  cap : vm₁.ctx.stack.cap = vm₂.ctx.stack.cap
  abort : vm₁.abort = vm₂.abort
  debugStackDepth : vm₁.debugStackDepth = vm₂.debugStackDepth
  recoverPanic : vm₁.recoverPanic = vm₂.recoverPanic
  pgTx : vm₁.pgTx = vm₂.pgTx

theorem VM.sameOutside_of_erase (h : vm₁.erase = vm₂.erase) : SameOutside vm₁ vm₂ where
  memory := (congrArg VM.memory h :)
  module := (congrArg VM.module h :)
  funcs := (congrArg VM.funcs h :)
  code := (congrArg (·.ctx.code) h :)
  pc := (congrArg (·.ctx.pc) h :)
  curFunc := (congrArg (·.ctx.curFunc) h :)
  cap := (congrArg (·.ctx.stack.cap) h :)
  abort := (congrArg VM.abort h :)
  debugStackDepth := (congrArg VM.debugStackDepth h :)
  recoverPanic := (congrArg VM.recoverPanic h :)
  pgTx := (congrArg VM.pgTx h :)

end Erase

section Agree

variable (S : SlotRel) (L G : List ValueType)

/-- Two VMs agree at stack types `st`, local types `L` and global types `G`: they are equal
outside their slots, and their slots are related at those types. -/
structure AgreeVM (st : List ValueType) (vm₁ vm₂ : VM) : Prop where
  erase : vm₁.erase = vm₂.erase
  stack : Slots S st vm₁.ctx.stack.items vm₂.ctx.stack.items
  locals : Slots S L vm₁.ctx.locals vm₂.ctx.locals
  globals : Slots S G vm₁.globals vm₂.globals

/-- Two results of one computation on agreeing VMs end alike: with the same value and VMs
agreeing at stack types `st'`, or with the same panic and VMs equal outside their slots, whose
globals still agree. -/
def Ends {α : Type} (st' : List ValueType) :
    EStateM.Result Trap VM α → EStateM.Result Trap VM α → Prop
  | .ok a₁ vm₁, .ok a₂ vm₂ => a₁ = a₂ ∧ AgreeVM S L G st' vm₁ vm₂
  | .error e₁ vm₁, .error e₂ vm₂ => e₁ = e₂ ∧ vm₁.erase = vm₂.erase ∧ Slots S G vm₁.globals vm₂.globals
  | _, _ => False

/-- `x` runs in lockstep on VMs that agree at stack types `st`, leaving stack types `st'`. -/
def Lockstep {α : Type} (st st' : List ValueType) (x : Exec α) : Prop :=
  ∀ ⦃vm₁ vm₂⦄, AgreeVM S L G st vm₁ vm₂ → Ends S L G st' (x vm₁) (x vm₂)

variable {S L G} {st st' : List ValueType} {vm₁ vm₂ : VM}

namespace AgreeVM

theorem same (h : AgreeVM S L G st vm₁ vm₂) : SameOutside vm₁ vm₂ :=
  VM.sameOutside_of_erase h.erase

theorem room_iff (h : AgreeVM S L G st vm₁ vm₂) : vm₁.Room ↔ vm₂.Room := by
  simp only [VM.Room, h.same.debugStackDepth, h.same.cap, h.stack.length_left, h.stack.length_right]

theorem skip (h : AgreeVM S L G st vm₁ vm₂) (n : Nat) : AgreeVM S L G st (vm₁.skip n) (vm₂.skip n) :=
  ⟨by simp [h.erase], h.stack, h.locals, h.globals⟩

theorem pushed {t : ValueType} {w₁ w₂ : Word} (h : AgreeVM S L G st vm₁ vm₂) (hw : S.rel t w₁ w₂) :
    AgreeVM S L G (t :: st) (vm₁.pushed w₁) (vm₂.pushed w₂) :=
  ⟨by simp [h.erase], .cons hw h.stack, h.locals, h.globals⟩

theorem withMemory (h : AgreeVM S L G st vm₁ vm₂) (m : List Byte) :
    AgreeVM S L G st (vm₁.withMemory m) (vm₂.withMemory m) :=
  ⟨by simp [h.erase], h.stack, h.locals, h.globals⟩

theorem top {t : ValueType} (h : AgreeVM S L G (t :: st) vm₁ vm₂) :
    ∃ x₁ x₂ r₁ r₂, vm₁.ctx.stack.items = x₁ :: r₁ ∧ vm₂.ctx.stack.items = x₂ :: r₂ ∧
      S.rel t x₁ x₂ ∧ Slots S st r₁ r₂ := by
  have := h.stack
  generalize vm₁.ctx.stack.items = xs, vm₂.ctx.stack.items = ys at this
  cases this
  exact ⟨_, _, _, _, rfl, rfl, ‹_›, ‹_›⟩

theorem popped {t : ValueType} (h : AgreeVM S L G (t :: st) vm₁ vm₂) :
    AgreeVM S L G st vm₁.popped vm₂.popped := by
  obtain ⟨x₁, x₂, r₁, r₂, h₁, h₂, -, hr⟩ := h.top
  exact ⟨by simp [h.erase], by simpa [h₁, h₂] using hr, h.locals, h.globals⟩

end AgreeVM

theorem Ends.ok_left {α : Type} {a : α} {vm₁' : VM} {r : EStateM.Result Trap VM α}
    (h : Ends S L G st' (.ok a vm₁') r) : ∃ vm₂', r = .ok a vm₂' ∧ AgreeVM S L G st' vm₁' vm₂' := by
  cases r with
  | ok b vm₂' => exact ⟨vm₂', by rw [h.1], h.2⟩
  | error => exact h.elim

theorem Ends.error_left {α : Type} {e : Trap} {vm₁' : VM} {r : EStateM.Result Trap VM α}
    (h : Ends S L G st' (.error e vm₁') r) :
    ∃ vm₂', r = .error e vm₂' ∧ vm₁'.erase = vm₂'.erase ∧ Slots S G vm₁'.globals vm₂'.globals := by
  cases r with
  | ok => exact h.elim
  | error e' vm₂' => exact ⟨vm₂', by rw [h.1], h.2⟩

theorem Ends.error_of_agree {α : Type} {e : Trap} (h : AgreeVM S L G st vm₁ vm₂) :
    Ends (α := α) S L G st' (.error e vm₁) (.error e vm₂) :=
  ⟨rfl, h.erase, h.globals⟩

section Closure

variable {α β : Type}

theorem lockstep_pure (a : α) : Lockstep S L G st st (pure a : Exec α) := fun _ _ h => ⟨rfl, h⟩

theorem lockstep_throw (e : Trap) : Lockstep S L G st st' (throw e : Exec α) :=
  fun _ _ h => Ends.error_of_agree h

theorem lockstep_throw_bind (e : Trap) {f : α → Exec β} :
    Lockstep S L G st st' (throw e >>= f) :=
  fun _ _ h => Ends.error_of_agree h

theorem lockstep_bind {st₁ : List ValueType} {x : Exec α} {f : α → Exec β}
    (hx : Lockstep S L G st st₁ x) (hf : ∀ a, Lockstep S L G st₁ st' (f a)) :
    Lockstep S L G st st' (x >>= f) := by
  intro vm₁ vm₂ h
  have hx := hx h
  simp only [bind_apply, EStateM.bind]
  cases h₁ : x vm₁ with
  | ok a vm₁' =>
    obtain ⟨vm₂', h₂, h'⟩ := Ends.ok_left (h₁ ▸ hx)
    rw [h₂]
    exact hf a h'
  | error e vm₁' =>
    obtain ⟨vm₂', h₂, h'⟩ := Ends.error_left (h₁ ▸ hx)
    rw [h₂]
    exact ⟨rfl, h'⟩

theorem lockstep_map {g : α → β} {x : Exec α} (hx : Lockstep S L G st st' x) :
    Lockstep S L G st st' (g <$> x) := by
  intro vm₁ vm₂ h
  have hx := hx h
  simp only [map_apply, EStateM.map]
  cases h₁ : x vm₁ with
  | ok a vm₁' =>
    obtain ⟨vm₂', h₂, h'⟩ := Ends.ok_left (h₁ ▸ hx)
    rw [h₂]
    exact ⟨rfl, h'⟩
  | error e vm₁' =>
    obtain ⟨vm₂', h₂, h'⟩ := Ends.error_left (h₁ ▸ hx)
    rw [h₂]
    exact ⟨rfl, h'⟩

theorem lockstep_ite {p : Prop} [Decidable p] {x y : Exec α} (hx : Lockstep S L G st st' x)
    (hy : Lockstep S L G st st' y) : Lockstep S L G st st' (if p then x else y) := by
  split <;> assumption

theorem lockstep_get_bind {k : VM → Exec α} (hk : ∀ vm₁ vm₂ : VM, SameOutside vm₁ vm₂ → k vm₁ = k vm₂)
    (h : ∀ vm, Lockstep S L G st st' (k vm)) : Lockstep S L G st st' (get >>= k) := by
  intro vm₁ vm₂ hv
  show Ends S L G st' (k vm₁ vm₁) (k vm₂ vm₂)
  rw [hk vm₂ vm₁ (VM.sameOutside_of_erase hv.erase.symm)]
  exact h vm₁ hv

theorem lockstep_modify {f : VM → VM}
    (hf : ∀ ⦃vm₁ vm₂⦄, AgreeVM S L G st vm₁ vm₂ → AgreeVM S L G st' (f vm₁) (f vm₂)) :
    Lockstep S L G st st' (modify f) :=
  fun _ _ h => ⟨rfl, hf h⟩

end Closure

section Primitives

variable {t : ValueType}

theorem lockstep_fetchBytes (n : Nat) : Lockstep S L G st st (fetchBytes n) := by
  intro vm₁ vm₂ h
  unfold fetchBytes
  rw [← h.same.code, ← h.same.pc]
  split
  · exact ⟨rfl, h.skip n⟩
  · exact Ends.error_of_agree h

theorem lockstep_popUint64 (ht : ∀ w, t.visible w = w) : Lockstep S L G (t :: st) st popUint64 := by
  intro vm₁ vm₂ h
  obtain ⟨x₁, x₂, r₁, r₂, h₁, h₂, hr, -⟩ := h.top
  rw [popUint64_ok h₁, popUint64_ok h₂]
  exact ⟨by simpa only [ht] using S.visible_eq hr, h.popped⟩

@[simp] theorem lockstep_popUint32 : Lockstep S L G (t :: st) st popUint32 := by
  intro vm₁ vm₂ h
  obtain ⟨x₁, x₂, r₁, r₂, h₁, h₂, hr, -⟩ := h.top
  rw [popUint32_ok h₁, popUint32_ok h₂]
  exact ⟨S.low hr, h.popped⟩

theorem pushUint64_ends {w₁ w₂ : Word} (h : AgreeVM S L G st vm₁ vm₂) (hw : S.rel t w₁ w₂) :
    Ends S L G (t :: st) (pushUint64 w₁ vm₁) (pushUint64 w₂ vm₂) := by
  by_cases hr : vm₁.Room
  · rw [pushUint64_ok hr, pushUint64_ok (h.room_iff.1 hr)]
    exact ⟨rfl, h.pushed hw⟩
  · rw [pushUint64_error hr, pushUint64_error (mt h.room_iff.2 hr)]
    exact Ends.error_of_agree h

@[simp] theorem lockstep_pushUint64 {w : Word} (hw : Rep t w) : Lockstep S L G st (t :: st) (pushUint64 w) :=
  fun _ _ h => pushUint64_ends h (S.refl hw)

end Primitives

section Leaves

variable {t : ValueType} {α : Type}

theorem lockstep_of_const {x : Exec α}
    (h : ∃ r : Except Trap α, ∀ vm, x vm = match r with | .ok a => .ok a vm | .error e => .error e vm) :
    Lockstep S L G st st x := by
  obtain ⟨r, hr⟩ := h
  intro vm₁ vm₂ hv
  rw [hr, hr]
  cases r
  · exact Ends.error_of_agree hv
  · exact ⟨rfl, hv⟩

@[simp] theorem lockstep_goIndex (s : List α) (i : Nat) : Lockstep S L G st st (goIndex s i) :=
  lockstep_of_const ⟨match s[i]? with | some a => .ok a | none => .error .indexOutOfRange,
    fun vm => by cases h : s[i]? <;> simp [goIndex, h]⟩

@[simp] theorem lockstep_goIndexInt (s : List α) (i : Int) : Lockstep S L G st st (goIndexInt s i) :=
  lockstep_ite (lockstep_throw _) (lockstep_goIndex _ _)

@[simp] theorem lockstep_makeBytes (n : BitVec 32) : Lockstep S L G st st (makeBytes n) :=
  lockstep_ite (lockstep_throw _) (lockstep_pure _)

@[simp] theorem lockstep_goDivide {n : Nat} (f : BitVec n → BitVec n → BitVec n) (x y : BitVec n) :
    Lockstep S L G st st (goDivide f x y) :=
  lockstep_ite (lockstep_throw _) (lockstep_pure _)

@[simp] theorem lockstep_checkTypes :
    ∀ ts us : List ValueType, Lockstep S L G st st (checkTypes ts us)
  | [], _ => lockstep_pure _
  | _ :: _, [] => lockstep_throw _
  | _ :: ts, _ :: us => lockstep_ite (lockstep_throw _) (lockstep_checkTypes ts us)

@[simp] theorem lockstep_memFrom (a : Nat) : Lockstep S L G st st (memFrom a) := by
  intro vm₁ vm₂ h
  unfold memFrom
  rw [← h.same.memory]
  split
  · exact ⟨rfl, h⟩
  · exact Ends.error_of_agree h

@[simp] theorem lockstep_memRead (n w a : Nat) : Lockstep S L G st st (memRead n w a) :=
  lockstep_bind (lockstep_memFrom a) fun _ => lockstep_ite (lockstep_pure _) (lockstep_throw _)

@[simp] theorem lockstep_memByte (a : Nat) : Lockstep S L G st st (memByte a) := by
  intro vm₁ vm₂ h
  unfold memByte
  rw [← h.same.memory]
  split
  · exact ⟨rfl, h⟩
  · exact Ends.error_of_agree h

@[simp] theorem lockstep_memPut (a : Nat) (b : List Byte) : Lockstep S L G st st (memPut a b) := by
  intro vm₁ vm₂ h
  unfold memPut
  rw [← h.same.memory]
  split
  · exact ⟨rfl, h.withMemory _⟩
  · exact Ends.error_of_agree h

@[simp] theorem lockstep_inBounds (offset : Nat) :
    Lockstep S L G (t :: st) (t :: st) (inBounds offset) := by
  intro vm₁ vm₂ h
  obtain ⟨x₁, x₂, r₁, r₂, h₁, h₂, hr, -⟩ := h.top
  unfold inBounds
  rw [← h.same.code, ← h.same.pc, ← h.same.memory, h₁, h₂]
  cases codeUint32 vm₁.ctx.code vm₁.ctx.pc with
  | none => exact Ends.error_of_agree h
  | some imm => exact ⟨by rw [S.low hr], h⟩

end Leaves

section Typed

variable {t : ValueType}

@[simp] theorem lockstep_popInt32 : Lockstep S L G (t :: st) st popInt32 := lockstep_popUint32
@[simp] theorem lockstep_popFloat32 : Lockstep S L G (t :: st) st popFloat32 := lockstep_popUint32
@[simp] theorem lockstep_popUint64_i64 : Lockstep S L G (.i64 :: st) st popUint64 :=
  lockstep_popUint64 fun _ => rfl
@[simp] theorem lockstep_popInt64 : Lockstep S L G (.i64 :: st) st popInt64 :=
  lockstep_popUint64 fun _ => rfl
@[simp] theorem lockstep_popFloat64 : Lockstep S L G (.f64 :: st) st popFloat64 :=
  lockstep_popUint64 fun _ => rfl

@[simp] theorem lockstep_pushUint32 (v : BitVec 32) : Lockstep S L G st (t :: st) (pushUint32 v) :=
  lockstep_pushUint64 (rep_setWidth v)
@[simp] theorem lockstep_pushFloat32 (v : BitVec 32) :
    Lockstep S L G st (t :: st) (pushFloat32 v) :=
  lockstep_pushUint64 (rep_setWidth v)
@[simp] theorem lockstep_pushInt32 (v : BitVec 32) : Lockstep S L G st (.i32 :: st) (pushInt32 v) :=
  lockstep_pushUint64 (rep_signExtend v)
@[simp] theorem lockstep_pushBool (b : Bool) : Lockstep S L G st (.i32 :: st) (pushBool b) :=
  lockstep_pushUint64 (rep_bool b)
@[simp] theorem lockstep_pushInt64 (v : Word) : Lockstep S L G st (.i64 :: st) (pushInt64 v) :=
  lockstep_pushUint64 (rep_i64 v)
@[simp] theorem lockstep_pushFloat64 (v : Word) : Lockstep S L G st (.f64 :: st) (pushFloat64 v) :=
  lockstep_pushUint64 (rep_f64 v)

@[simp] theorem lockstep_fetchInt8 : Lockstep S L G st st fetchInt8 :=
  lockstep_map (lockstep_fetchBytes 1)
@[simp] theorem lockstep_fetchBool : Lockstep S L G st st fetchBool :=
  lockstep_map lockstep_fetchInt8
@[simp] theorem lockstep_fetchUint32 : Lockstep S L G st st fetchUint32 :=
  lockstep_map (lockstep_fetchBytes 4)
@[simp] theorem lockstep_fetchUint64 : Lockstep S L G st st fetchUint64 :=
  lockstep_map (lockstep_fetchBytes 8)

@[simp] theorem lockstep_fetchBaseAddr : Lockstep S L G (t :: st) st fetchBaseAddr :=
  lockstep_bind lockstep_fetchUint32 fun _ => lockstep_bind lockstep_popInt32 fun _ => lockstep_pure _

end Typed

section Shapes

variable {α β γ : Type} {t t' : ValueType}

@[simp] theorem unop_lockstep {pop : Exec α} {op : α → β} {push : β → Exec Unit}
    (hp : Lockstep S L G (t :: st) st pop) (hq : ∀ a, Lockstep S L G st (t' :: st) (push (op a))) :
    Lockstep S L G (t :: st) (t' :: st) (unop pop op push) :=
  lockstep_bind hp hq

@[simp] theorem binop_lockstep {t₂ : ValueType} {pop₁ : Exec α} {pop₂ : Exec β} {op : α → β → γ}
    {push : γ → Exec Unit} (hp₁ : Lockstep S L G (t :: t₂ :: st) (t₂ :: st) pop₁)
    (hp₂ : Lockstep S L G (t₂ :: st) st pop₂)
    (hq : ∀ a b, Lockstep S L G st (t' :: st) (push (op a b))) :
    Lockstep S L G (t :: t₂ :: st) (t' :: st) (binop pop₁ pop₂ op push) :=
  lockstep_bind hp₁ fun _ => lockstep_bind hp₂ fun _ => hq _ _

@[simp] theorem divop_lockstep {pop : Exec α} {op : α → α → Exec α} {push : α → Exec Unit}
    (hp₁ : Lockstep S L G (t :: t :: st) (t :: st) pop) (hp₂ : Lockstep S L G (t :: st) st pop)
    (ho : ∀ a b, Lockstep S L G st st (op a b)) (hq : ∀ c, Lockstep S L G st (t' :: st) (push c)) :
    Lockstep S L G (t :: t :: st) (t' :: st) (divop pop op push) :=
  lockstep_bind hp₁ fun _ => lockstep_bind hp₂ fun _ => lockstep_bind (ho _ _) hq

-- The memory shapes nest more binds than `simp` discharges side conditions for, so they are
-- taken apart bind by bind, down to the primitives.

@[simp] theorem load_lockstep {offset : Nat} {read : Nat → Exec α} {push : α → Exec Unit}
    (hr : ∀ a, Lockstep S L G st st (read a)) (hq : ∀ v, Lockstep S L G st (t' :: st) (push v)) :
    Lockstep S L G (t :: st) (t' :: st) (load offset read push) := by
  unfold load
  repeat' first
    | with_reducible apply lockstep_throw_bind
    | with_reducible apply lockstep_bind
    | with_reducible apply lockstep_ite
    | with_reducible apply lockstep_pure
    | with_reducible apply lockstep_throw
    | exact lockstep_inBounds _
    | exact lockstep_fetchBaseAddr
    | exact hr _
    | exact hq _
    | dsimp only
    | intro _

@[simp] theorem store_lockstep {offset : Nat} {val : α} {write : Nat → α → Exec Unit}
    (hw : ∀ a v, Lockstep S L G st st (write a v)) :
    Lockstep S L G (t :: st) st (store offset val write) := by
  unfold store
  repeat' first
    | with_reducible apply lockstep_throw_bind
    | with_reducible apply lockstep_bind
    | with_reducible apply lockstep_ite
    | with_reducible apply lockstep_pure
    | with_reducible apply lockstep_throw
    | exact lockstep_inBounds _
    | exact lockstep_fetchBaseAddr
    | exact hw _ _
    | dsimp only
    | intro _

theorem popStore_lockstep {t₂ : ValueType} {pop : Exec α} {offset : Nat} {g : α → β}
    {write : Nat → β → Exec Unit} (hp : Lockstep S L G (t :: t₂ :: st) (t₂ :: st) pop)
    (hw : ∀ a v, Lockstep S L G st st (write a v)) :
    Lockstep S L G (t :: t₂ :: st) st (pop >>= fun v => store offset (g v) write) :=
  lockstep_bind hp fun _ => store_lockstep hw

end Shapes

section Families

theorem intOp_lockstep (o : IntOp) (st : List ValueType) :
    Lockstep S L G (o.sig.1 ++ st) (o.sig.2 ++ st) o.handler := by
  cases o <;> simp only [IntOp.sig.eq_def, IntOp.handler.eq_def, List.cons_append, List.singleton_append,
    implies_true, unop_lockstep, binop_lockstep, divop_lockstep, lockstep_popUint32,
    lockstep_popInt32, lockstep_popUint64_i64, lockstep_popInt64, lockstep_pushUint32,
    lockstep_pushInt32, lockstep_pushUint64, lockstep_pushInt64, lockstep_pushBool, rep_i64,
    rep_counts, lockstep_goDivide, BitVec.ofNat_eq_ofNat, i32Clz, i32Ctz, i32Popcnt, i32Add, i32Sub,
    i32Mul, i32DivS, i32DivU, i32RemS, i32RemU, i32And, i32Or, i32Xor, i32Shl, i32ShrS, i32ShrU,
    i32Rotl, i32Rotr, i32LeS, i32LeU, i32LtS, i32LtU, i32GtS, i32GtU, i32GeS, i32GeU, i32Eqz, i32Eq,
    i32Ne, i64Clz, i64Ctz, i64Popcnt, i64Add, i64Sub, i64Mul, i64DivS, i64DivU, i64RemS, i64RemU,
    i64And, i64Or, i64Xor, i64Shl, i64ShrS, i64ShrU, i64Rotl, i64Rotr, i64Eq, i64Eqz, i64Ne, i64LtS,
    i64LtU, i64GtS, i64GtU, i64LeU, i64LeS, i64GeS, i64GeU, goDivS, goDivU, goRemS, goRemU]

theorem floatOp_lockstep (F : FloatOps) (o : FloatOp) (st : List ValueType) :
    Lockstep S L G (o.sig.1 ++ st) (o.sig.2 ++ st) (o.handler F) := by
  cases o <;> simp only [FloatOp.sig.eq_def, FloatOp.handler.eq_def, List.cons_append, List.singleton_append,
    implies_true, unop_lockstep, binop_lockstep, lockstep_popFloat32, lockstep_popFloat64,
    lockstep_pushFloat32, lockstep_pushFloat64, lockstep_pushBool, BitVec.ofNat_eq_ofNat, f32Abs,
    f32Neg, f32Ceil, f32Floor, f32Trunc, f32Nearest, f32Sqrt, f32Add, f32Sub, f32Mul, f32Div,
    f32Min, f32Max, f32Copysign, f32Eq, f32Ne, f32Lt, f32Gt, f32Le, f32Ge, f64Abs, f64Neg, f64Ceil,
    f64Floor, f64Trunc, f64Nearest, f64Sqrt, f64Add, f64Sub, f64Mul, f64Div, f64Min, f64Max,
    f64Copysign, f64Eq, f64Ne, f64Lt, f64Gt, f64Le, f64Ge]

theorem convOp_lockstep (F : FloatOps) (o : ConvOp) (st : List ValueType) :
    Lockstep S L G (o.sig.1 ++ st) (o.sig.2 ++ st) (o.handler F) := by
  cases o <;> simp only [ConvOp.sig.eq_def, ConvOp.handler.eq_def, List.singleton_append, implies_true,
    unop_lockstep, lockstep_popUint32, lockstep_popInt32, lockstep_popFloat32,
    lockstep_popUint64_i64, lockstep_popInt64, lockstep_popFloat64, lockstep_pushUint32,
    lockstep_pushInt32, lockstep_pushFloat32, lockstep_pushUint64, lockstep_pushInt64,
    lockstep_pushFloat64, rep_i64, rep_setWidth, i32Wrapi64, i32TruncSF32, i32TruncUF32,
    i32TruncSF64, i32TruncUF64, i64ExtendSI32, i64ExtendUI32, i64TruncSF32, i64TruncUF32,
    i64TruncSF64, i64TruncUF64, f32ConvertSI32, f32ConvertUI32, f32ConvertSI64, f32ConvertUI64,
    f32DemoteF64, f64ConvertSI32, f64ConvertUI32, f64ConvertSI64, f64ConvertUI64, f64PromoteF32]

theorem load_handler_lockstep (l : Load) (st : List ValueType) :
    Lockstep S L G (.i32 :: st) (l.type :: st) l.handler := by
  cases l <;> simp [Load.type, Load.handler, i32Load, i32Load8s, i32Load8u, i32Load16s,
    i32Load16u, i64Load, i64Load8s, i64Load8u, i64Load16s, i64Load16u, i64Load32s, i64Load32u,
    f32Load, f64Load, memUint16, memUint32, memUint64]

theorem store_handler_lockstep (s : Store) (st : List ValueType) :
    Lockstep S L G (s.type :: .i32 :: st) st s.handler := by
  cases s <;> simp only [Store.type, Store.handler, f32Store, f64Store, i32Store, i32Store8,
    i32Store16, i64Store, i64Store8, i64Store16, i64Store32] <;>
    exact popStore_lockstep (by simp) fun _ _ => lockstep_memPut _ _

end Families

section Handlers

variable {t : ValueType} {α : Type} {vm₁ vm₂ : VM}

@[simp] theorem VM.popped_locals (vm : VM) : vm.popped.ctx.locals = vm.ctx.locals := rfl
@[simp] theorem VM.popped_globals (vm : VM) : vm.popped.globals = vm.globals := rfl

theorem stackTop_ok {vm : VM} {i : Word} {rest : List Word} (h : vm.ctx.stack.items = i :: rest) :
    stackTop vm = .ok i vm := by
  simp [stackTop, h]

theorem goSet_ok {s : List Word} {i : Nat} {v : Word} {vm : VM} (h : i < s.length) :
    goSet s i v vm = .ok (s.set i v) vm := if_pos h

theorem lockstep_currentMemory : Lockstep S L G st (.i32 :: st) currentMemory :=
  lockstep_bind lockstep_fetchInt8 fun _ =>
    lockstep_get_bind (fun _ _ h => by simp only [h.memory]) fun _ => lockstep_pushInt32 _

theorem lockstep_growMemory : Lockstep S L G (.i32 :: st) (.i32 :: st) growMemory :=
  lockstep_bind lockstep_fetchInt8 fun _ =>
    lockstep_get_bind (fun _ _ h => by simp only [h.memory]) fun _ =>
      lockstep_bind lockstep_popInt32 fun _ => lockstep_bind (lockstep_makeBytes _) fun _ =>
        lockstep_bind (lockstep_modify fun _ _ h => by rw [← h.same.memory]; exact h.withMemory _)
          fun _ => lockstep_pushInt32 _

theorem lockstep_i32Const : Lockstep S L G st (.i32 :: st) i32Const :=
  lockstep_bind lockstep_fetchUint32 lockstep_pushUint32

theorem lockstep_i64Const : Lockstep S L G st (.i64 :: st) i64Const :=
  lockstep_bind lockstep_fetchUint64 fun _ => lockstep_pushUint64 (rep_i64 _)

theorem lockstep_f32Const : Lockstep S L G st (.f32 :: st) f32Const :=
  lockstep_bind lockstep_fetchUint32 lockstep_pushFloat32

theorem lockstep_f64Const : Lockstep S L G st (.f64 :: st) f64Const :=
  lockstep_bind lockstep_fetchUint64 lockstep_pushFloat64

theorem varType_eq_some {vars : List ValueType} {vm : VM} (h : varType vars vm = some t) :
    ∃ i vm', fetchUint32 vm = .ok i vm' ∧ vars[i.toNat]? = some t ∧ i.toNat < vars.length := by
  obtain ⟨i, hi, ht⟩ := Option.bind_eq_some.1 h
  obtain ⟨vm', h'⟩ := Exec.peek_eq_some.1 hi
  refine ⟨i, vm', h', ht, ?_⟩
  by_contra hc
  rw [List.getElem?_eq_none (by omega)] at ht
  cases ht

theorem AgreeVM.setLocal {i : Nat} {x₁ x₂ : Word} (h : AgreeVM S L G st vm₁ vm₂)
    (hi : L[i]? = some t) (hr : S.rel t x₁ x₂) :
    AgreeVM S L G st (vm₁.withLocals (vm₁.ctx.locals.set i x₁))
      (vm₂.withLocals (vm₂.ctx.locals.set i x₂)) :=
  ⟨by rw [VM.erase_withLocals (by simp), VM.erase_withLocals (by simp), h.erase], h.stack,
    h.locals.set hi hr, h.globals⟩

theorem AgreeVM.setGlobal {i : Nat} {x₁ x₂ : Word} (h : AgreeVM S L G st vm₁ vm₂)
    (hi : G[i]? = some t) (hr : S.rel t x₁ x₂) :
    AgreeVM S L G st (vm₁.withGlobals (vm₁.globals.set i x₁)) (vm₂.withGlobals (vm₂.globals.set i x₂)) :=
  ⟨by rw [VM.erase_withGlobals (by simp), VM.erase_withGlobals (by simp), h.erase], h.stack,
    h.locals, h.globals.set hi hr⟩

theorem getLocal_ends (h : AgreeVM S L G st vm₁ vm₂) (ht : varType L vm₁ = some t) :
    Ends S L G (t :: st) (getLocal vm₁) (getLocal vm₂) := by
  obtain ⟨i, vm₁', h₁, hi, -⟩ := varType_eq_some ht
  obtain ⟨vm₂', h₂, h'⟩ := Ends.ok_left (h₁ ▸ lockstep_fetchUint32 h)
  obtain ⟨x₁, x₂, hx₁, hx₂, hr⟩ := h'.locals.get hi
  unfold getLocal
  rw [bind_ok h₁, bind_ok h₂, get_bind_apply, get_bind_apply, bind_ok (goIndex_ok hx₁),
    bind_ok (goIndex_ok hx₂)]
  exact pushUint64_ends h' hr

theorem getGlobal_ends (h : AgreeVM S L G st vm₁ vm₂) (ht : varType G vm₁ = some t) :
    Ends S L G (t :: st) (getGlobal vm₁) (getGlobal vm₂) := by
  obtain ⟨i, vm₁', h₁, hi, -⟩ := varType_eq_some ht
  obtain ⟨vm₂', h₂, h'⟩ := Ends.ok_left (h₁ ▸ lockstep_fetchUint32 h)
  obtain ⟨x₁, x₂, hx₁, hx₂, hr⟩ := h'.globals.get hi
  unfold getGlobal
  rw [bind_ok h₁, bind_ok h₂, get_bind_apply, get_bind_apply, bind_ok (goIndex_ok hx₁),
    bind_ok (goIndex_ok hx₂)]
  exact pushUint64_ends h' hr

theorem setLocal_ends (h : AgreeVM S L G (t :: st) vm₁ vm₂) (ht : varType L vm₁ = some t) :
    Ends S L G st (setLocal vm₁) (setLocal vm₂) := by
  obtain ⟨i, vm₁', h₁, hi, hl⟩ := varType_eq_some ht
  obtain ⟨vm₂', h₂, h'⟩ := Ends.ok_left (h₁ ▸ lockstep_fetchUint32 h)
  obtain ⟨x₁, x₂, r₁, r₂, hs₁, hs₂, hr, -⟩ := h'.top
  unfold setLocal
  rw [bind_ok h₁, bind_ok h₂, bind_ok (popUint64_ok hs₁), bind_ok (popUint64_ok hs₂),
    get_bind_apply, get_bind_apply,
    bind_ok (goSet_ok (by rw [VM.popped_locals, h'.locals.length_left]; exact hl)),
    bind_ok (goSet_ok (by rw [VM.popped_locals, h'.locals.length_right]; exact hl))]
  exact ⟨rfl, h'.popped.setLocal hi hr⟩

theorem teeLocal_ends (h : AgreeVM S L G (t :: st) vm₁ vm₂) (ht : varType L vm₁ = some t) :
    Ends S L G (t :: st) (teeLocal vm₁) (teeLocal vm₂) := by
  obtain ⟨i, vm₁', h₁, hi, hl⟩ := varType_eq_some ht
  obtain ⟨vm₂', h₂, h'⟩ := Ends.ok_left (h₁ ▸ lockstep_fetchUint32 h)
  obtain ⟨x₁, x₂, r₁, r₂, hs₁, hs₂, hr, -⟩ := h'.top
  unfold teeLocal
  rw [bind_ok h₁, bind_ok h₂, bind_ok (stackTop_ok hs₁), bind_ok (stackTop_ok hs₂),
    get_bind_apply, get_bind_apply, bind_ok (goSet_ok (h'.locals.length_left ▸ hl)),
    bind_ok (goSet_ok (h'.locals.length_right ▸ hl))]
  exact ⟨rfl, h'.setLocal hi hr⟩

theorem setGlobal_ends (h : AgreeVM S L G (t :: st) vm₁ vm₂) (ht : varType G vm₁ = some t) :
    Ends S L G st (setGlobal vm₁) (setGlobal vm₂) := by
  obtain ⟨i, vm₁', h₁, hi, hl⟩ := varType_eq_some ht
  obtain ⟨vm₂', h₂, h'⟩ := Ends.ok_left (h₁ ▸ lockstep_fetchUint32 h)
  obtain ⟨x₁, x₂, r₁, r₂, hs₁, hs₂, hr, -⟩ := h'.top
  unfold setGlobal
  rw [bind_ok h₁, bind_ok h₂, bind_ok (popUint64_ok hs₁), bind_ok (popUint64_ok hs₂),
    get_bind_apply, get_bind_apply,
    bind_ok (goSet_ok (by rw [VM.popped_globals, h'.globals.length_left]; exact hl)),
    bind_ok (goSet_ok (by rw [VM.popped_globals, h'.globals.length_right]; exact hl))]
  exact ⟨rfl, h'.popped.setGlobal hi hr⟩

theorem selectOp_ends (h : AgreeVM S L G (.i32 :: t :: t :: st) vm₁ vm₂) :
    Ends S L G (t :: st) (selectOp vm₁) (selectOp vm₂) := by
  obtain ⟨c₁, c₂, _, _, hc₁, hc₂, hc, -⟩ := h.top
  obtain ⟨v₁, v₂, _, _, hv₁, hv₂, hv, -⟩ := h.popped.top
  obtain ⟨w₁, w₂, _, _, hw₁, hw₂, hw, -⟩ := h.popped.popped.top
  unfold selectOp
  rw [bind_ok (popUint32_ok hc₁), bind_ok (popUint32_ok hc₂), bind_ok (popUint64_ok hv₁),
    bind_ok (popUint64_ok hv₂), bind_ok (popUint64_ok hw₁), bind_ok (popUint64_ok hw₂), S.low hc]
  exact pushUint64_ends h.popped.popped.popped (by split <;> assumption)

theorem drop_ends (h : AgreeVM S L G (t :: st) vm₁ vm₂) : Ends S L G st (drop vm₁) (drop vm₂) := by
  obtain ⟨_, _, _, _, h₁, h₂, -, -⟩ := h.top
  simp only [drop, h₁, h₂]
  exact ⟨rfl, h.popped⟩

theorem popPush_ends {ins outs : List ValueType} {x : Exec Unit} {T T' : SlotTypes}
    (h : AgreeVM S T.locals T.globals T.stack vm₁ vm₂) (ht : T.popPush ins outs = some T')
    (hx : ∀ st, AgreeVM S T.locals T.globals (ins ++ st) vm₁ vm₂ →
      Ends S T.locals T.globals (outs ++ st) (x vm₁) (x vm₂)) :
    T'.locals = T.locals ∧ T'.globals = T.globals ∧
      Ends S T.locals T.globals T'.stack (x vm₁) (x vm₂) := by
  obtain ⟨st, hs, rfl⟩ := SlotTypes.popPush_eq_some.1 ht
  exact ⟨rfl, rfl, hx st (hs ▸ h)⟩

theorem bind_popPush_ends {o : Option ValueType} {ins outs : ValueType → List ValueType}
    {x : Exec Unit} {T T' : SlotTypes} (h : AgreeVM S T.locals T.globals T.stack vm₁ vm₂)
    (ht : o.bind (fun t => T.popPush (ins t) (outs t)) = some T')
    (hx : ∀ t, o = some t → ∀ st, AgreeVM S T.locals T.globals (ins t ++ st) vm₁ vm₂ →
      Ends S T.locals T.globals (outs t ++ st) (x vm₁) (x vm₂)) :
    T'.locals = T.locals ∧ T'.globals = T.globals ∧
      Ends S T.locals T.globals T'.stack (x vm₁) (x vm₂) := by
  obtain ⟨t, ho, hp⟩ := Option.bind_eq_some.1 ht
  exact popPush_ends h hp (hx t ho)

theorem Op.ends (F : FloatOps) (o : Op) {T T' : SlotTypes}
    (h : AgreeVM S T.locals T.globals T.stack vm₁ vm₂) (ht : o.types vm₁ T = some T') :
    T'.locals = T.locals ∧ T'.globals = T.globals ∧
      Ends S T.locals T.globals T'.stack (o.handler F vm₁) (o.handler F vm₂) := by
  cases o with
  | int o => exact popPush_ends h ht fun st h => intOp_lockstep o st h
  | float o => exact popPush_ends h ht fun st h => floatOp_lockstep F o st h
  | conv o => exact popPush_ends h ht fun st h => convOp_lockstep F o st h
  | load l => exact popPush_ends h ht fun st h => load_handler_lockstep l st h
  | store s => exact popPush_ends h ht fun st h => store_handler_lockstep s st h
  | currentMemory => exact popPush_ends h ht fun _ h => lockstep_currentMemory h
  | growMemory => exact popPush_ends h ht fun _ h => lockstep_growMemory h
  | i32Const => exact popPush_ends h ht fun _ h => lockstep_i32Const h
  | i64Const => exact popPush_ends h ht fun _ h => lockstep_i64Const h
  | f32Const => exact popPush_ends h ht fun _ h => lockstep_f32Const h
  | f64Const => exact popPush_ends h ht fun _ h => lockstep_f64Const h
  | getLocal => exact bind_popPush_ends h ht fun _ hv _ h => getLocal_ends h hv
  | setLocal => exact bind_popPush_ends h ht fun _ hv _ h => setLocal_ends h hv
  | teeLocal => exact bind_popPush_ends h ht fun _ hv _ h => teeLocal_ends h hv
  | getGlobal => exact bind_popPush_ends h ht fun _ hv _ h => getGlobal_ends h hv
  | setGlobal => exact bind_popPush_ends h ht fun _ hv _ h => setGlobal_ends h hv
  | drop => exact bind_popPush_ends h ht fun _ _ _ h => drop_ends h
  | selectOp => exact bind_popPush_ends h ht fun _ _ _ h => selectOp_ends h
  | unreachable => cases Option.some.inj ht; exact ⟨rfl, rfl, lockstep_throw _ h⟩
  | nop => cases Option.some.inj ht; exact ⟨rfl, rfl, lockstep_pure _ h⟩

end Handlers

end Agree

end Wagon
