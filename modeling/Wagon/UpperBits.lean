import Wagon.Simulation
import Wagon.Invocation

/-! # The upper halves of 32-bit slots

Two instances of the lockstep runs of `Simulation`. Relating words by what a handler reads of
them (`visibleRel`) says that the upper half of an `i32` or `f32` slot is never observed: two
runs that differ only there take the same branches, trap alike, keep equal memory and make
`ExecCode` return the same value. Relating a word only to itself, and only when it represents
its type (`represents`), says that one run keeps every slot in a form `Rep` allows: an `i32`
slot holds its low half zero- or sign-extended, an `f32` slot zero-extended. -/

namespace Wagon

/-- Words that every handler reads alike at their slot's type. -/
def visibleRel : SlotRel where
  rel t x y := t.visible x = t.visible y
  visible_eq h := h
  refl _ := rfl

theorem convertResult_visible (t : ValueType) (w : Word) :
    convertResult t (t.visible w) = convertResult t w := by
  cases t <;> simp [convertResult, ValueType.visible]

theorem execCodeEnd_agree {entry : Int} {returns : Bool} {vm₁ vm₂ : VM} {r₁ r₂ : Word}
    (he : vm₁.erase = vm₂.erase)
    (hr : ∀ t, ((getFunction vm₁.module entry).bind fun fn => fn.sig.returnTypes.head?) = some t →
      t.visible r₁ = t.visible r₂) :
    execCodeEnd entry returns vm₁ r₁ = execCodeEnd entry returns vm₂ r₂ := by
  have hs := VM.sameOutside_of_erase he
  have hv : returnValue entry returns vm₁ r₁ = returnValue entry returns vm₂ r₂ := by
    unfold returnValue
    rw [← hs.module]
    cases ht : (getFunction vm₁.module entry).bind fun fn => fn.sig.returnTypes.head? with
    | none => rfl
    | some t =>
      dsimp only
      rw [← convertResult_visible t r₁, hr t ht, convertResult_visible]
  unfold execCodeEnd ExecResult.ofPanic commit
  rw [hv, ← hs.recoverPanic, ← hs.pgTx]
  cases returnValue entry returns vm₂ r₂ with
  | error e => rfl
  | ok v => cases vm₁.pgTx <;> rfl

/-- Two machines equal but for the upper halves of their `i32` and `f32` slots, run for any
number of passes that the type rules accept: they take the same branches and trap at the same
pass with the same panic, keep equal memory and everything else outside the slots, hold slots
whose `i64` and `f64` words are equal and whose `i32` and `f32` words have equal low halves, and
make `ExecCode` return the same value. -/
theorem upper_halves_unobservable (decl : Nat → List ValueType) (entry : Int)
    (decode : Byte → Instr) (F : FloatOps) {n : Nat} {Γ Γ' : Typing} {m₁ m₂ : Machine}
    (hm : AgreeM visibleRel Γ m₁ m₂) (ht : runTypes decl entry decode F n Γ m₁ = some Γ') :
    OutcomeAgree visibleRel entry Γ' (run decode F n m₁) (run decode F n m₂) ∧
      ∀ vm₁ r₁ vm₂ r₂, run decode F n m₁ = .finished vm₁ r₁ → run decode F n m₂ = .finished vm₂ r₂ →
        execCodeEnd entry m₁.returns vm₁ r₁ = execCodeEnd entry m₂.returns vm₂ r₂ := by
  have h := run_agree decode F hm ht
  refine ⟨h, fun vm₁ r₁ vm₂ r₂ h₁ h₂ => ?_⟩
  rw [h₁, h₂] at h
  rw [← hm.returns]
  exact execCodeEnd_agree h.1 h.2.2

/-- `i32.eqz` on an `i32` slot holding `0` and on one holding `0xFFFFFFFF_00000000`. -/
theorem upper_halves_unobservable_at_i32Eqz :
    let m₁ : Machine := ⟨VM.running [0xFFFFFFFF00000000] [0] [], false, []⟩
    let m₂ : Machine := ⟨VM.running [0] [0] [], false, []⟩
    let Γ : Typing := ⟨⟨[.i32], [], []⟩, []⟩
    AgreeM visibleRel Γ m₁ m₂ ∧
      runTypes (fun _ => []) 0 (fun _ => .op (.int .i32Eqz)) default 1 Γ m₁ = some Γ ∧
      OutcomeAgree visibleRel 0 Γ (run (fun _ => .op (.int .i32Eqz)) default 1 m₁)
        (run (fun _ => .op (.int .i32Eqz)) default 1 m₂) := by
  intro m₁ m₂ Γ
  have hm : AgreeM visibleRel Γ m₁ m₂ :=
    ⟨⟨rfl, .cons (by show ValueType.visible _ _ = _; decide) .nil, .nil, .nil⟩, rfl, .nil⟩
  have ht : runTypes (fun _ => []) 0 (fun _ => .op (.int .i32Eqz)) default 1 Γ m₁ = some Γ := by
    decide
  exact ⟨hm, ht, (upper_halves_unobservable _ _ _ _ hm ht).1⟩

/-- A word related only to itself, and only when it represents its slot's type. -/
def represents : SlotRel where
  rel t x y := x = y ∧ Rep t x
  visible_eq h := by rw [h.1]
  refl h := ⟨rfl, h⟩

theorem slots_represents {ts : List ValueType} {ws : List Word} (h : List.Forall₂ Rep ts ws) :
    Slots represents ts ws ws := by
  induction h with
  | nil => exact .nil
  | cons hr _ ih => exact .cons ⟨rfl, hr⟩ ih

section Globals

/-- The word `resetGlobals` stores for an initialiser's value: `uint64` of it, which
sign-extends an `int32`. -/
def InitValue.word : InitValue → Word
  | .int32 v => v.signExtend 64
  | .int64 v => v
  | .float32 v => v.setWidth 64
  | .float64 v => v

def InitValue.type : InitValue → ValueType
  | .int32 _ => .i32
  | .int64 _ => .i64
  | .float32 _ => .f32
  | .float64 _ => .f64

theorem InitValue.rep_word (v : InitValue) : Rep v.type v.word := by
  cases v <;> simp [InitValue.type, InitValue.word]

theorem resetGlobalsFrom_some (i : Nat) (v : InitValue) (inits : List (Option InitValue))
    (globals : List Word) :
    resetGlobalsFrom i (some v :: inits) globals =
      resetGlobalsFrom (i + 1) inits (globals.set i v.word) := by
  cases v <;> rfl

theorem take_succ_set {l : List Word} {i : Nat} (h : i < l.length) (a : Word) :
    (l.set i a).take (i + 1) = l.take i ++ [a] := by
  rw [List.take_succ, List.set_take, List.set_eq_of_length_le (by simp), List.getElem?_set_self h]
  rfl

theorem resetGlobalsFrom_values (vs : List InitValue) :
    ∀ i (globals : List Word), globals.length = i + vs.length →
      resetGlobalsFrom i (vs.map some) globals =
        (globals.take i ++ vs.map InitValue.word, true) := by
  induction vs with
  | nil =>
    intro i globals h
    simp [resetGlobalsFrom, List.take_of_length_le (by simp at h; omega : globals.length ≤ i)]
  | cons v vs ih =>
    intro i globals h
    rw [List.map_cons, resetGlobalsFrom_some, ih (i + 1) _ (by simp [h]; omega),
      take_succ_set (by simp [h])]
    simp

theorem resetGlobalsFrom_ok {i : Nat} {inits : List (Option InitValue)} {globals : List Word}
    (h : (resetGlobalsFrom i inits globals).2 = true) :
    ∃ vs : List InitValue, inits = vs.map some := by
  induction inits generalizing i globals with
  | nil => exact ⟨[], rfl⟩
  | cons o inits ih =>
    cases o with
    | none => cases h
    | some v =>
      rw [resetGlobalsFrom_some] at h
      obtain ⟨vs, rfl⟩ := ih h
      exact ⟨v :: vs, rfl⟩

/-- When it reports no error, `resetGlobals` leaves each global holding a word that represents
the type of its initialiser's value. -/
theorem resetGlobals_represents {inits : List (Option InitValue)} {globals : List Word}
    (hl : globals.length = inits.length) (h : (resetGlobalsFrom 0 inits globals).2 = true) :
    List.Forall₂ Rep (inits.filterMap (Option.map InitValue.type))
      (resetGlobalsFrom 0 inits globals).1 := by
  obtain ⟨vs, rfl⟩ := resetGlobalsFrom_ok h
  rw [resetGlobalsFrom_values vs 0 globals (by simpa using hl), List.filterMap_map,
    show Option.map InitValue.type ∘ some = some ∘ InitValue.type from rfl, List.filterMap_eq_map]
  simpa [List.forall₂_same] using fun v _ => InitValue.rep_word v

end Globals

theorem execCodeStart_agree_self {S : SlotRel} {decl : Nat → List ValueType} {vm : VM}
    {fnIndex : Int} {args : List Word} {m : Machine} {G : List ValueType} {Γ : Typing}
    (hg : Slots S G vm.globals vm.globals)
    (ha : ∀ g, getFunction vm.module fnIndex = some g → Slots S g.sig.paramTypes args args)
    (hΓ : entryTypes decl fnIndex G vm = some Γ) (hm : execCodeStart fnIndex args vm = .ready m) :
    AgreeM S Γ m m := by
  obtain ⟨g, f, h0, hl, hg', hp, hf, hn⟩ := execCodeStart_ready_checks hm
  cases hm.symm.trans (execCodeStart_eq_ready h0 hl hg' hp hf hn)
  simp only [entryTypes, hg', if_neg (not_lt.2 h0), hf] at hΓ
  split at hΓ
  · rename_i hd
    cases hΓ
    refine ⟨AgreeVM.withCtx rfl hg ⟨rfl, .nil, ?_⟩, rfl, .nil⟩
    rw [show f.totalLocalVars - args.length = (decl fnIndex.toNat).length by rw [hd, hp]]
    exact (ha g hg').append (Slots.replicate_zero _)
  · cases hΓ

/-- From the start `ExecCode` builds out of globals and arguments that represent their types,
every pass of the loop the type rules accept keeps every slot of the running body, of each
suspended caller and of the globals representing its type; the globals stay so when a pass
traps, finishes or calls a host function. `resetGlobals`, when it reports no error, leaves
each global representing the type of its initialiser's value. -/
theorem slots_keep_representation (decl : Nat → List ValueType) (decode : Byte → Instr)
    (F : FloatOps) :
    (∀ (inits : List (Option InitValue)) (globals : List Word), globals.length = inits.length →
      (resetGlobalsFrom 0 inits globals).2 = true →
      List.Forall₂ Rep (inits.filterMap (Option.map InitValue.type))
        (resetGlobalsFrom 0 inits globals).1) ∧
    ∀ {vm : VM} {fnIndex : Int} {args : List Word} {m : Machine} {G : List ValueType}
      {Γ Γ' : Typing} {n : Nat}, List.Forall₂ Rep G vm.globals →
      (∀ g, getFunction vm.module fnIndex = some g → List.Forall₂ Rep g.sig.paramTypes args) →
      entryTypes decl fnIndex G vm = some Γ → execCodeStart fnIndex args vm = .ready m →
      runTypes decl fnIndex decode F n Γ m = some Γ' →
      OutcomeAgree represents fnIndex Γ' (run decode F n m) (run decode F n m) :=
  ⟨fun _ _ hl h => resetGlobals_represents hl h, fun hg ha hΓ hm ht =>
    run_agree decode F
      (execCodeStart_agree_self (slots_represents hg) (fun g h => slots_represents (ha g h)) hΓ hm)
      ht⟩

/-- `i32.const -1`, `i32.const 1`, `i32.div_s` as the body of an entry function that returns an
`i32`: after three passes the rules accept, from a start with no slot at all, the `i32` slot on
the stack holds `-1` sign-extended. An `int32` global initialised to `-1` is stored
sign-extended too. -/
theorem i32DivS_sign_extends_slot :
    let module : Module := { Module.empty with functionIndexSpace := [⟨⟨[], [.i32]⟩, false⟩] }
    let funcs : List Function :=
      [.compiled ⟨[0, 0xFF, 0xFF, 0xFF, 0xFF, 0, 1, 0, 0, 0, 1], [], 2, 0, 0, true⟩]
    let decode : Byte → Instr := fun b => if b = 0 then .op .i32Const else .op (.int .i32DivS)
    (∃ vm m m', newVM module funcs false false = .ok vm ∧ execCodeStart 0 [] vm = .ready m ∧
      entryTypes (fun _ => []) 0 [] vm = some ⟨⟨[], [], []⟩, []⟩ ∧
      runTypes (fun _ => []) 0 decode default 3 ⟨⟨[], [], []⟩, []⟩ m =
        some ⟨⟨[.i32], [], []⟩, []⟩ ∧
      run decode default 3 m = .running m' ∧ m'.vm.ctx.stack.items = [0xFFFFFFFFFFFFFFFF]) ∧
    resetGlobalsFrom 0 [some (.int32 0xFFFFFFFF)] [0] = ([0xFFFFFFFFFFFFFFFF], true) := by
  intro module funcs decode
  refine ⟨⟨_, ?m, ?m', rfl, ?start, ?entry, ?types, ?run, ?top⟩, rfl⟩
  case start =>
    refine execCodeStart_eq_ready (g := ⟨⟨[], [.i32]⟩, false⟩)
      (f := ⟨[0, 0xFF, 0xFF, 0xFF, 0xFF, 0, 1, 0, 0, 0, 1], [], 2, 0, 0, true⟩)
      ?_ ?_ ?_ ?_ ?_ ?_ <;> decide
  case entry => decide
  case types => decide
  case run => exact rfl
  case top => decide

/-- The run of `i32DivS_sign_extends_slot` keeps every slot representing its type: the
sign-extended `-1` is a form `Rep` allows for an `i32`. -/
theorem slots_keep_representation_at_i32DivS :
    let module : Module := { Module.empty with functionIndexSpace := [⟨⟨[], [.i32]⟩, false⟩] }
    let funcs : List Function :=
      [.compiled ⟨[0, 0xFF, 0xFF, 0xFF, 0xFF, 0, 1, 0, 0, 0, 1], [], 2, 0, 0, true⟩]
    let decode : Byte → Instr := fun b => if b = 0 then .op .i32Const else .op (.int .i32DivS)
    ∃ vm m, newVM module funcs false false = .ok vm ∧ execCodeStart 0 [] vm = .ready m ∧
      OutcomeAgree represents 0 ⟨⟨[.i32], [], []⟩, []⟩ (run decode default 3 m)
        (run decode default 3 m) := by
  intro module funcs decode
  refine ⟨_, ?m, rfl, ?start,
    (slots_keep_representation (fun _ => []) decode default).2 .nil
      (fun _ h => by cases h; exact .nil) (G := []) (Γ := ⟨⟨[], [], []⟩, []⟩) ?entry ?start ?types⟩
  case start =>
    refine execCodeStart_eq_ready (g := ⟨⟨[], [.i32]⟩, false⟩)
      (f := ⟨[0, 0xFF, 0xFF, 0xFF, 0xFF, 0, 1, 0, 0, 0, 1], [], 2, 0, 0, true⟩)
      ?_ ?_ ?_ ?_ ?_ ?_ <;> decide
  case entry => decide
  case types => decide

end Wagon
