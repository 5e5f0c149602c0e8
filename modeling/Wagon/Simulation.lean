import Wagon.Agree

/-! # Two runs in lockstep

The agreement of `Agree` lifted to machines: the VMs agree at the types of the running body,
and each suspended caller's context agrees at the types saved with it. A pass of the loop on
two machines that agree at types its rule accepts ends alike in both, at the types the rule
gives; by induction, so do any number of passes. -/

namespace Wagon

def Typing.withStack (Γ : Typing) (st : List ValueType) : Typing :=
  { Γ with slots := { Γ.slots with stack := st } }

section Machines

variable (S : SlotRel) (entry : Int)

/-- Two saved contexts agree at `c`: equal but for their slots, which are related. -/
structure CtxAgree (c : CtxTypes) (c₁ c₂ : Context) : Prop where
  erase : c₁.erase = c₂.erase
  stack : Slots S c.stack c₁.stack.items c₂.stack.items
  locals : Slots S c.locals c₁.locals c₂.locals

inductive FramesAgree : List CtxTypes → List Frame → List Frame → Prop where
  | nil : FramesAgree [] [] []
  | cons {c : CtxTypes} {cs : List CtxTypes} {fr₁ fr₂ : Frame} {frs₁ frs₂ : List Frame} :
      fr₁.returns = fr₂.returns → CtxAgree S c fr₁.caller fr₂.caller →
      FramesAgree cs frs₁ frs₂ → FramesAgree (c :: cs) (fr₁ :: frs₁) (fr₂ :: frs₂)

structure AgreeM (Γ : Typing) (m₁ m₂ : Machine) : Prop where
  vm : AgreeVM S Γ.slots.locals Γ.slots.globals Γ.slots.stack m₁.vm m₂.vm
  returns : m₁.returns = m₂.returns
  frames : FramesAgree S Γ.frames m₁.frames m₂.frames

/-- Two outcomes agree at `Γ`: both running, on agreeing machines; both trapped, with the same
panic, on VMs equal but for their slots, with agreeing globals; both finished, likewise, with
values that look the same at the result type `ExecCode` converts them by; or both calling the
same host function from agreeing machines. -/
def OutcomeAgree (Γ : Typing) : Outcome → Outcome → Prop
  | .running m₁, .running m₂ => AgreeM S Γ m₁ m₂
  | .trapped e₁ vm₁, .trapped e₂ vm₂ =>
    e₁ = e₂ ∧ vm₁.erase = vm₂.erase ∧ Slots S Γ.slots.globals vm₁.globals vm₂.globals
  | .finished vm₁ r₁, .finished vm₂ r₂ =>
    vm₁.erase = vm₂.erase ∧ Slots S Γ.slots.globals vm₁.globals vm₂.globals ∧
      ∀ t, ((getFunction vm₁.module entry).bind fun fn => fn.sig.returnTypes.head?) = some t →
        t.visible r₁ = t.visible r₂
  | .host i₁ m₁, .host i₂ m₂ => i₁ = i₂ ∧ AgreeM S Γ m₁ m₂
  | _, _ => False

end Machines

section Bind

variable {S : SlotRel} {L G st₁ : List ValueType} {α β : Type} {vm₁ vm₂ : VM}

theorem ends_bind {x₁ x₂ : Exec α} {f₁ f₂ : α → Exec β}
    {R : EStateM.Result Trap VM β → EStateM.Result Trap VM β → Prop}
    (hx : Ends S L G st₁ (x₁ vm₁) (x₂ vm₂))
    (herr : ∀ e vm₁' vm₂', vm₁'.erase = vm₂'.erase → Slots S G vm₁'.globals vm₂'.globals →
      R (.error e vm₁') (.error e vm₂'))
    (hf : ∀ a vm₁' vm₂', x₁ vm₁ = .ok a vm₁' → AgreeVM S L G st₁ vm₁' vm₂' →
      R (f₁ a vm₁') (f₂ a vm₂')) :
    R ((x₁ >>= f₁) vm₁) ((x₂ >>= f₂) vm₂) := by
  simp only [bind_apply, EStateM.bind]
  cases h₁ : x₁ vm₁ with
  | ok a vm₁' =>
    obtain ⟨vm₂', h₂, h'⟩ := Ends.ok_left (h₁ ▸ hx)
    rw [h₂]
    exact hf a vm₁' vm₂' h₁ h'
  | error e vm₁' =>
    obtain ⟨vm₂', h₂, he, hg⟩ := Ends.error_left (h₁ ▸ hx)
    rw [h₂]
    exact herr e vm₁' vm₂' he hg

end Bind

section Control

variable {S : SlotRel} {L G st : List ValueType} {vm₁ vm₂ : VM} {t : ValueType}

theorem VM.erase_dropStack (vm : VM) (k : Nat) :
    ({ vm with ctx.stack := vm.ctx.stack.drop k } : VM).erase =
      { vm.erase with ctx.stack := vm.erase.ctx.stack.drop k } := by
  simp [VM.erase, Context.erase, OperandStack.drop, List.drop_replicate]

theorem Slots.drop {ts : List ValueType} {xs ys : List Word} (h : Slots S ts xs ys) (k : Nat) :
    Slots S (ts.drop k) (xs.drop k) (ys.drop k) := by
  induction h generalizing k with
  | nil => simpa using Slots.nil
  | cons hr _ ih =>
    cases k with
    | zero => exact .cons hr ‹_›
    | succ k => exact ih k

theorem AgreeVM.dropStack (h : AgreeVM S L G st vm₁ vm₂) (k : Nat) :
    AgreeVM S L G (st.drop k) { vm₁ with ctx.stack := vm₁.ctx.stack.drop k }
      { vm₂ with ctx.stack := vm₂.ctx.stack.drop k } :=
  ⟨by rw [VM.erase_dropStack, VM.erase_dropStack, h.erase], h.stack.drop k, h.locals, h.globals⟩

theorem lockstep_setPc (target : Word) : Lockstep S L G st st (setPc target) :=
  lockstep_modify fun _ _ h =>
    ⟨congrArg (fun v : VM => { v with ctx.pc := target.toInt }) h.erase, h.stack, h.locals, h.globals⟩

theorem stackTop_bind_nil {α : Type} {k : Word → Exec α} {vm : VM}
    (h : vm.ctx.stack.items = []) : (stackTop >>= k) vm = .error .indexOutOfRange vm := by
  simp only [bind_apply, EStateM.bind, stackTop, h]

theorem discardTop_ends (h : AgreeVM S L G st vm₁ vm₂) (n : Word) :
    Ends S L G (st.drop n.toInt.toNat) (discardTop n vm₁) (discardTop n vm₂) := by
  unfold discardTop
  rw [h.stack.length_left, h.stack.length_right]
  split
  · exact ⟨rfl, h.dropStack _⟩
  · exact Ends.error_of_agree h

theorem branchDiscard_ends (h : AgreeVM S L G st vm₁ vm₂) {preserveTop : Bool} {n : Word}
    {st' : List ValueType} (hb : branchTypes preserveTop n st = some st') :
    Ends S L G st' (branchDiscard preserveTop n vm₁) (branchDiscard preserveTop n vm₂) := by
  obtain ⟨-, rfl⟩ := branchTypes_eq_some.1 hb
  unfold branchDiscard
  cases preserveTop with
  | false => exact discardTop_ends h n
  | true =>
    cases st with
    | nil =>
      obtain ⟨h₁, h₂⟩ := h.stack.eq_nil
      simp only [if_true, stackTop_bind_nil h₁, stackTop_bind_nil h₂]
      exact Ends.error_of_agree h
    | cons t st =>
      obtain ⟨x₁, x₂, r₁, r₂, h₁, h₂, hr, -⟩ := h.top
      simp only [if_true]
      rw [bind_ok (stackTop_ok h₁), bind_ok (stackTop_ok h₂)]
      exact ends_bind (discardTop_ends h n) (fun _ _ _ he hg => ⟨rfl, he, hg⟩)
        fun _ _ _ _ h' => pushUint64_ends h' hr

theorem lockstep_curCompiled : Lockstep S L G st st curCompiled := by
  unfold curCompiled
  refine lockstep_get_bind (fun _ _ h => by simp only [h.funcs]) fun _ =>
    lockstep_get_bind (fun _ _ h => by simp only [h.curFunc]) fun _ =>
      lockstep_bind (lockstep_goIndexInt _ _) fun f => ?_
  cases f
  · exact lockstep_pure _
  · exact lockstep_throw _

theorem lockstep_call : Lockstep S L G st st call :=
  lockstep_bind lockstep_fetchUint32 fun _ =>
    lockstep_get_bind (fun _ _ h => by simp only [h.module]) fun _ =>
      lockstep_bind (lockstep_goIndex _ _) fun _ => lockstep_pure _

theorem lockstep_callIndirect : Lockstep S L G (t :: st) st callIndirect := by
  unfold callIndirect
  repeat' first
    | (with_reducible apply lockstep_get_bind; intro _ _ h; simp only [h.module])
    | with_reducible apply lockstep_throw_bind
    | with_reducible apply lockstep_bind
    | with_reducible apply lockstep_ite
    | with_reducible apply lockstep_pure
    | with_reducible apply lockstep_throw
    | exact lockstep_fetchUint32
    | exact lockstep_popUint32
    | exact lockstep_goIndex _ _
    | exact lockstep_checkTypes _ _
    | dsimp only
    | intro _

end Control

section Calls

variable {S : SlotRel} {decl : Nat → List ValueType} {entry : Int} {Γ Γ' : Typing}
  {m₁ m₂ : Machine} {L G st : List ValueType} {vm₁ vm₂ : VM}

theorem AgreeVM.withCtx {c₁ c₂ : Context} (he : vm₁.erase = vm₂.erase)
    (hg : Slots S G vm₁.globals vm₂.globals) (hc : CtxAgree S ⟨st, L⟩ c₁ c₂) :
    AgreeVM S L G st { vm₁ with ctx := c₁ } { vm₂ with ctx := c₂ } :=
  ⟨show ({ vm₁.erase with ctx := c₁.erase } : VM) = { vm₂.erase with ctx := c₂.erase } by
    rw [he, hc.erase], hc.stack, hc.locals, hg⟩

theorem finish_agree (hm : AgreeM S Γ m₁ m₂)
    (ht : exitTypes entry Γ m₁.returns m₁.vm.module = some Γ') :
    OutcomeAgree S entry Γ' (finish m₁) (finish m₂) := by
  obtain ⟨T, cs⟩ := Γ
  obtain ⟨vm₁, ret, frs₁⟩ := m₁
  obtain ⟨vm₂, ret₂, frs₂⟩ := m₂
  obtain ⟨hv, hret, hfr⟩ := hm
  dsimp only at hv hret hfr ht
  subst hret
  have hg : Γ'.slots.globals = T.globals := exitTypes_globals ht
  unfold exitTypes at ht
  unfold finish execResult
  cases ret with
  | false =>
    cases hfr with
    | nil =>
      simp only [Bool.false_eq_true, if_false, false_implies, if_true, Option.some.injEq] at ht ⊢
      subst ht
      exact ⟨hv.erase, hv.globals, fun _ _ => rfl⟩
    | cons hr hc hfr =>
      simp only [Bool.false_eq_true, if_false, Option.some.injEq] at ht ⊢
      subst ht
      exact ⟨AgreeVM.withCtx hv.erase hv.globals hc, hr, hfr⟩
  | true =>
    cases hs : T.stack with
    | nil =>
      rw [hs] at hv
      obtain ⟨h₁, h₂⟩ := hv.stack.eq_nil
      simp only [if_true, h₁, h₂]
      exact ⟨rfl, hv.erase, hg ▸ hv.globals⟩
    | cons t st =>
      rw [hs] at hv
      obtain ⟨x₁, x₂, r₁, r₂, h₁, h₂, hr, -⟩ := hv.top
      simp only [if_true, h₁, h₂]
      cases hfr with
      | nil =>
        simp only [hs, true_implies, List.head?_cons] at ht
        split at ht
        · rename_i hc
          cases ht
          refine ⟨hv.erase, hv.globals, fun u hu => ?_⟩
          cases hc.symm.trans hu
          exact S.visible_eq hr
        · cases ht
      | cons hret hc hfr =>
        simp only [hs, List.take_succ_cons, List.take_zero, Option.some.injEq] at ht
        subst ht
        simp only [if_true, List.singleton_append]
        have hp := pushUint64_ends (AgreeVM.withCtx hv.erase hv.globals hc) hr
        revert hp
        cases pushUint64 x₁ _ <;> cases pushUint64 x₂ _ <;> intro hp
        · exact ⟨hp.2, hret, hfr⟩
        · exact hp.elim
        · exact hp.elim
        · exact hp

theorem popArgs_agree (h : AgreeVM S L G st vm₁ vm₂) {n : Nat} (hn : n ≤ st.length) :
    ∃ a₁ a₂ vm₁' vm₂', popArgs n vm₁ = .ok a₁ vm₁' ∧ popArgs n vm₂ = .ok a₂ vm₂' ∧
      Slots S (st.take n).reverse a₁ a₂ ∧ AgreeVM S L G (st.drop n) vm₁' vm₂' := by
  induction n generalizing st vm₁ vm₂ with
  | zero => exact ⟨[], [], vm₁, vm₂, rfl, rfl, .nil, h⟩
  | succ n ih =>
    cases st with
    | nil => simp at hn
    | cons t st =>
      obtain ⟨x₁, x₂, r₁, r₂, h₁, h₂, hr, -⟩ := h.top
      obtain ⟨a₁, a₂, vm₁', vm₂', e₁, e₂, ha, h'⟩ := ih h.popped (by simpa using hn)
      refine ⟨a₁ ++ [x₁], a₂ ++ [x₂], vm₁', vm₂', ?_, ?_, ?_, h'⟩
      · simp only [popArgs, bind_ok (popUint64_ok h₁), bind_ok e₁]; rfl
      · simp only [popArgs, bind_ok (popUint64_ok h₂), bind_ok e₂]; rfl
      · simpa using ha.append (.cons hr .nil)

theorem invoke_agree {idx : Nat} (hm : AgreeM S Γ m₁ m₂)
    (ht : callTypes decl Γ idx m₁.vm = some Γ') :
    OutcomeAgree S entry Γ' (invoke idx m₁) (invoke idx m₂) := by
  unfold callTypes at ht
  unfold invoke
  rw [← hm.vm.same.funcs]
  cases hf : m₁.vm.funcs[idx]? with
  | none =>
    simp only [hf, Option.some.injEq] at ht
    subst ht
    exact ⟨rfl, hm.vm.erase, hm.vm.globals⟩
  | some f =>
    cases f with
    | host typ =>
      simp only [hf, Option.some.injEq] at ht
      subst ht
      exact ⟨rfl, hm⟩
    | compiled f =>
      simp only [hf] at ht
      split at ht
      · rename_i hc
        cases ht
        obtain ⟨a₁, a₂, vm₁', vm₂', e₁, e₂, ha, h'⟩ := popArgs_agree hm.vm hc.1
        simp only [e₁, e₂]
        refine ⟨AgreeVM.withCtx h'.erase h'.globals ⟨?_, .nil, ?_⟩, rfl,
          .cons hm.returns ⟨congrArg (·.ctx) h'.erase, h'.stack, h'.locals⟩ hm.frames⟩
        · simp [Context.erase, ha.length_left, ha.length_right]
        · simpa [← hc.2] using ha.append (Slots.replicate_zero (decl idx))
      · cases ht

end Calls

theorem step_eq (decode : Byte → Instr) (F : FloatOps) (m : Machine) :
    step decode F m =
      if m.vm.ctx.pc < m.vm.ctx.code.length ∧ m.vm.abort = false then
        m.afterPass (loopBody decode F m.vm)
      else finish m := rfl

section Pass

variable {S : SlotRel} {decl : Nat → List ValueType} {entry : Int} {Γ Γ' : Typing}
  {m₁ m₂ : Machine} {L G st : List ValueType} {vm₁ vm₂ : VM} {α : Type}

theorem afterPass_bind {x₁ x₂ : Exec α} {f₁ f₂ : α → Exec Signal}
    (hx : Ends S L G st (x₁ vm₁) (x₂ vm₂)) (hG : Γ'.slots.globals = G)
    (hf : ∀ a vm₁' vm₂', x₁ vm₁ = .ok a vm₁' → AgreeVM S L G st vm₁' vm₂' →
      OutcomeAgree S entry Γ' (m₁.afterPass (f₁ a vm₁')) (m₂.afterPass (f₂ a vm₂'))) :
    OutcomeAgree S entry Γ' (m₁.afterPass ((x₁ >>= f₁) vm₁)) (m₂.afterPass ((x₂ >>= f₂) vm₂)) :=
  @ends_bind S L G st α Signal vm₁ vm₂ x₁ x₂ f₁ f₂
    (fun r₁ r₂ => OutcomeAgree S entry Γ' (m₁.afterPass r₁) (m₂.afterPass r₂)) hx
    (fun _ _ _ he hg => ⟨rfl, he, hG ▸ hg⟩) hf

theorem afterPass_next {T : SlotTypes} (h : AgreeVM S T.locals T.globals T.stack vm₁ vm₂)
    (hr : m₁.returns = m₂.returns) (hf : FramesAgree S Γ.frames m₁.frames m₂.frames) :
    OutcomeAgree S entry { Γ with slots := T } (m₁.afterPass (.ok .next vm₁))
      (m₂.afterPass (.ok .next vm₂)) :=
  ⟨h, hr, hf⟩

theorem afterPass_invoke {x : Exec Nat} (hx : Ends S L G st (x vm₁) (x vm₂))
    (hG : Γ'.slots.globals = G)
    (hf : ∀ idx vm₁' vm₂', x vm₁ = .ok idx vm₁' → AgreeVM S L G st vm₁' vm₂' →
      OutcomeAgree S entry Γ' (invoke idx { m₁ with vm := vm₁' }) (invoke idx { m₂ with vm := vm₂' })) :
    OutcomeAgree S entry Γ' (m₁.afterPass ((Signal.invoke <$> x) vm₁))
      (m₂.afterPass ((Signal.invoke <$> x) vm₂)) :=
  afterPass_bind hx hG hf

theorem execInstr_agree (F : FloatOps) (i : Instr)
    (hv : AgreeVM S Γ.slots.locals Γ.slots.globals Γ.slots.stack vm₁ vm₂)
    (hr : m₁.returns = m₂.returns) (hf : FramesAgree S Γ.frames m₁.frames m₂.frames)
    (ht : instrTypes decl entry Γ m₁.returns i vm₁ = some Γ') :
    OutcomeAgree S entry Γ' (m₁.afterPass (execInstr F i vm₁))
      (m₂.afterPass (execInstr F i vm₂)) := by
  have hG := instrTypes_globals ht
  cases i with
  | «return» => exact finish_agree ⟨hv, hr, hf⟩ ht
  | jmp =>
    cases ht
    exact afterPass_bind (lockstep_fetchUint64 hv) rfl fun _ _ _ _ h =>
      afterPass_bind (lockstep_setPc _ h) rfl fun _ _ _ _ h => afterPass_next h hr hf
  | jmpZ =>
    obtain ⟨T', hT, rfl⟩ := Option.map_eq_some'.1 ht
    obtain ⟨st, hs, rfl⟩ := SlotTypes.popPush_eq_some.1 hT
    rw [hs] at hv
    refine afterPass_bind (lockstep_fetchUint64 hv) rfl fun _ _ _ _ h => ?_
    refine afterPass_bind (lockstep_popUint32 h) rfl fun _ _ _ _ h => ?_
    dsimp only
    split
    · exact afterPass_bind (lockstep_setPc _ h) rfl fun _ _ _ _ h => afterPass_next h hr hf
    · exact afterPass_next h hr hf
  | jmpNz =>
    obtain ⟨T', hT, ht⟩ := Option.bind_eq_some.1 ht
    obtain ⟨st, hs, rfl⟩ := SlotTypes.popPush_eq_some.1 hT
    rw [hs] at hv
    refine afterPass_bind (lockstep_fetchUint64 hv) hG fun _ _ _ e₁ h => ?_
    refine afterPass_bind (lockstep_fetchBool h) hG fun pt _ _ e₂ h => ?_
    refine afterPass_bind (lockstep_fetchUint64 h) hG fun d _ _ e₃ h => ?_
    refine afterPass_bind (lockstep_popUint32 h) hG fun c _ _ e₄ h => ?_
    have hp : jmpNzArgs.peek vm₁ = some (pt, d, c) := by
      simp only [jmpNzArgs, Exec.peek_bind e₁, Exec.peek_bind e₂, Exec.peek_bind e₃,
        Exec.peek_bind e₄]
      rfl
    simp only [hp] at ht
    dsimp only
    split at ht
    · rename_i hc
      obtain ⟨_, hb, rfl⟩ := Option.map_eq_some'.1 ht
      rw [if_pos hc]
      exact afterPass_bind (lockstep_setPc _ h) rfl fun _ _ _ _ h =>
        afterPass_bind (branchDiscard_ends h hb) rfl fun _ _ _ _ h => afterPass_next h hr hf
    · rename_i hc
      cases ht
      rw [if_neg hc]
      exact afterPass_next h hr hf
  | brTable =>
    obtain ⟨T', hT, ht⟩ := Option.bind_eq_some.1 ht
    obtain ⟨st, hs, rfl⟩ := SlotTypes.popPush_eq_some.1 hT
    rw [hs] at hv
    refine afterPass_bind (lockstep_fetchUint64 hv) hG fun _ _ _ e₁ h => ?_
    refine afterPass_bind (lockstep_popUint32 h) hG fun label _ _ e₂ h => ?_
    refine afterPass_bind (lockstep_curCompiled h) hG fun _ _ _ e₃ h => ?_
    refine afterPass_bind (lockstep_goIndexInt _ _ h) hG fun table vm' _ e₄ h => ?_
    have hb : brTableArgs vm₁ = .ok (brTableTarget table label) vm' := by
      simp only [brTableArgs, bind_ok e₁, bind_ok e₂, bind_ok e₃, bind_ok e₄]
      rfl
    simp only [hb] at ht
    split at ht
    · rename_i hret
      rw [if_pos hret]
      refine finish_agree ?_ ht
      exact ⟨h, hr, hf⟩
    · rename_i hret
      rw [if_neg hret]
      obtain ⟨_, hb, rfl⟩ := Option.map_eq_some'.1 ht
      exact afterPass_bind (lockstep_setPc _ h) rfl fun _ _ _ _ h =>
        afterPass_bind (branchDiscard_ends h hb) rfl fun _ _ _ _ h => afterPass_next h hr hf
  | discard =>
    refine afterPass_bind (lockstep_fetchUint64 hv) hG fun n _ _ e₁ h => ?_
    have hp : fetchInt64.peek vm₁ = some n := Exec.peek_eq_some.2 ⟨_, e₁⟩
    simp only [instrTypes, hp, Option.elim] at ht
    obtain ⟨_, hb, rfl⟩ := Option.map_eq_some'.1 ht
    exact afterPass_bind (branchDiscard_ends h hb) rfl fun _ _ _ _ h => afterPass_next h hr hf
  | discardPreserveTop =>
    cases hs : Γ.slots.stack with
    | nil =>
      rw [hs] at hv
      obtain ⟨h₁, h₂⟩ := hv.stack.eq_nil
      simp only [execInstr, stackTop_bind_nil h₁, stackTop_bind_nil h₂]
      exact ⟨rfl, hv.erase, hG ▸ hv.globals⟩
    | cons t st =>
      rw [hs] at hv
      obtain ⟨x₁, x₂, r₁, r₂, h₁, h₂, hx, -⟩ := hv.top
      simp only [execInstr]
      rw [bind_ok (stackTop_ok h₁), bind_ok (stackTop_ok h₂)]
      refine afterPass_bind (lockstep_fetchUint64 hv) hG fun n _ _ e₁ h => ?_
      have hp : fetchInt64.peek vm₁ = some n := Exec.peek_eq_some.2 ⟨_, e₁⟩
      simp only [instrTypes, hp, Option.elim, hs] at ht
      obtain ⟨_, hb, rfl⟩ := Option.map_eq_some'.1 ht
      obtain ⟨-, rfl⟩ := branchTypes_eq_some.1 hb
      exact afterPass_bind (discardTop_ends h n) rfl fun _ _ _ _ h =>
        afterPass_bind (pushUint64_ends h hx) rfl fun _ _ _ _ h => afterPass_next h hr hf
  | call =>
    refine afterPass_invoke (lockstep_call hv) hG fun _ _ _ e h => ?_
    simp only [instrTypes, e] at ht
    exact invoke_agree ⟨h, hr, hf⟩ ht
  | callIndirect =>
    obtain ⟨T', hT, ht⟩ := Option.bind_eq_some.1 ht
    obtain ⟨st, hs, rfl⟩ := SlotTypes.popPush_eq_some.1 hT
    rw [hs] at hv
    refine afterPass_invoke (lockstep_callIndirect hv) hG fun _ _ _ e h => ?_
    simp only [e] at ht
    refine invoke_agree ?_ ht
    exact ⟨h, hr, hf⟩
  | op o =>
    obtain ⟨T', hT, rfl⟩ := Option.map_eq_some'.1 ht
    obtain ⟨hl, hg, he⟩ := Op.ends F o hv hT
    refine afterPass_bind he hg fun _ _ _ _ h => ?_
    exact afterPass_next (by rw [hl, hg]; exact h) hr hf
  | nilEntry =>
    cases ht
    exact ⟨rfl, hv.erase, hv.globals⟩

/-- One pass of the loop on two agreeing machines ends alike on both, at the types its rule
gives. -/
theorem step_agree (decode : Byte → Instr) (F : FloatOps) (hm : AgreeM S Γ m₁ m₂)
    (ht : stepTypes decl entry decode Γ m₁ = some Γ') :
    OutcomeAgree S entry Γ' (step decode F m₁) (step decode F m₂) := by
  have hG := stepTypes_globals ht
  have hs := hm.vm.same
  unfold stepTypes at ht
  rw [step_eq, step_eq, ← hs.pc, ← hs.code, ← hs.abort]
  split
  · rename_i hg
    rw [if_pos hg] at ht
    refine afterPass_bind (lockstep_fetchInt8 hm.vm) hG fun op _ _ e h => ?_
    simp only [e] at ht
    exact execInstr_agree F (decode op) h hm.returns hm.frames ht
  · rename_i hg
    rw [if_neg hg] at ht
    exact finish_agree hm ht

/-- Any number of passes on two agreeing machines end alike, when the rules accept every pass
of the first. -/
theorem run_agree (decode : Byte → Instr) (F : FloatOps) {n : Nat} (hm : AgreeM S Γ m₁ m₂)
    (ht : runTypes decl entry decode F n Γ m₁ = some Γ') :
    OutcomeAgree S entry Γ' (run decode F n m₁) (run decode F n m₂) := by
  induction n generalizing Γ m₁ m₂ with
  | zero => cases ht; exact hm
  | succ n ih =>
    obtain ⟨Γ'', h₁, h₂⟩ := Option.bind_eq_some.1 ht
    have hs := step_agree decode F hm h₁
    simp only [run]
    revert h₂ hs
    cases step decode F m₁ <;> cases step decode F m₂ <;> intro h₂ hs <;> dsimp only at h₂
    all_goals first
      | exact ih hs h₂
      | exact (hs : False).elim
      | (cases h₂; exact hs)

end Pass

end Wagon
