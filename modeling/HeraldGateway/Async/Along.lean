import HeraldGateway.Async.Refinement

/-!
# Properties of all paths of a program

`Along allowed good Q p` says that, whatever the replies within `good` are, `p` calls only `allowed`
operations and ends with a result in `Q`. It mentions no state, so it does not matter what runs beside
the program: `Along.par` needs nothing of the other program but the same property. `Follows.of_along`,
`Runs.along` and `System.events_allowed` bring it to programs in a pool.
-/

namespace Async

section

variable {S : Signature} {ε α β σ C φ : Type}

/-- On every path whose replies are `good`, a program calls only `allowed` operations and ends in `Q`. -/
def Along (allowed : S.Op → Prop) (good : (o : S.Op) → Except ε (S.Res o) → Prop) :
    (Except ε α → Prop) → Prog S ε α → Prop
  | Q, .ret a => Q (.ok a)
  | Q, .throw e => Q (.error e)
  | Q, .choose k => ∀ b, Along allowed good Q (k b)
  | Q, .call o k => allowed o ∧ ∀ r, good o r → Along allowed good Q (k r)

section rules

variable {allowed : S.Op → Prop} {good : (o : S.Op) → Except ε (S.Res o) → Prop}
  {Q : Except ε α → Prop} {R : Except ε β → Prop}

theorem Along.mono {Q' : Except ε α → Prop} {p : Prog S ε α} (hQ : ∀ r, Q r → Q' r)
    (hp : Along allowed good Q p) : Along allowed good Q' p := by
  induction p with
  | ret a => exact hQ _ hp
  | throw e => exact hQ _ hp
  | choose k ih => exact fun b => ih b (hp b)
  | call o k ih => exact ⟨hp.1, fun r hr => ih r (hp.2 r hr)⟩

/-- Two properties of the paths of a program hold of them together. -/
theorem Along.and {allowed' : S.Op → Prop} {Q' : Except ε α → Prop} {p : Prog S ε α}
    (hp : Along allowed good Q p) (hp' : Along allowed' good Q' p) :
    Along (fun o => allowed o ∧ allowed' o) good (fun r => Q r ∧ Q' r) p := by
  induction p with
  | ret a => exact ⟨hp, hp'⟩
  | throw e => exact ⟨hp, hp'⟩
  | choose k ih => exact fun b => ih b (hp b) (hp' b)
  | call o k ih => exact ⟨⟨hp.1, hp'.1⟩, fun r hr => ih r (hp.2 r hr) (hp'.2 r hr)⟩

/-! What a program has to do to end in `Q` is computed from its parts. -/

@[simp] theorem along_ret {a : α} : Along allowed good Q (Prog.ret a) ↔ Q (.ok a) := Iff.rfl

@[simp] theorem along_throw {e : ε} :
    Along allowed good Q (Prog.throw e : Prog S ε α) ↔ Q (.error e) := Iff.rfl

theorem along_andThen {p : Prog S ε α} {f : Except ε α → Prog S ε β} :
    Along allowed good R (p.andThen f) ↔ Along allowed good (fun r => Along allowed good R (f r)) p := by
  induction p with
  | ret a => exact Iff.rfl
  | throw e => exact Iff.rfl
  | choose k ih => exact forall_congr' ih
  | call o k ih => exact and_congr_right fun _ => forall_congr' fun r => imp_congr_right fun _ => ih r

@[simp] theorem along_bind {p : Prog S ε α} {f : α → Prog S ε β} :
    Along allowed good R (p.bind f) ↔ Along allowed good (fun
      | .ok a => Along allowed good R (f a)
      | .error e => R (.error e)) p := by
  refine along_andThen.trans (iff_of_eq (congrArg (fun Q => Along allowed good Q p) (funext fun r => ?_)))
  cases r <;> rfl

@[simp] theorem along_tryCatch {p : Prog S ε α} {f : ε → Prog S ε α} :
    Along allowed good Q (p.tryCatch f) ↔ Along allowed good (fun
      | .ok a => Q (.ok a)
      | .error e => Along allowed good Q (f e)) p := by
  refine along_andThen.trans (iff_of_eq (congrArg (fun Q => Along allowed good Q p) (funext fun r => ?_)))
  cases r <;> rfl

@[simp] theorem along_settle {p : Prog S ε α} {Q : Except ε (Except ε α) → Prop} :
    Along allowed good Q p.settle ↔ Along allowed good (fun r => Q (.ok r)) p := along_andThen

@[simp] theorem along_perform {o : S.Op} {Q : Except ε (S.Res o) → Prop} :
    Along allowed good Q (Prog.perform o) ↔ allowed o ∧
      (∀ e, good o (.error e) → Q (.error e)) ∧ ∀ a, good o (.ok a) → Q (.ok a) := by
  refine and_congr_right fun _ => ⟨fun h => ⟨fun e => h (.error e), fun a => h (.ok a)⟩, ?_⟩
  rintro ⟨he, ha⟩ (e | a)
  · exact he e
  · exact ha a

/-! ### Rules -/

theorem Along.andThen {p : Prog S ε α} {f : Except ε α → Prog S ε β}
    (hp : Along allowed good (fun r => Along allowed good R (f r)) p) :
    Along allowed good R (p.andThen f) := along_andThen.2 hp

theorem Along.bind {p : Prog S ε α} {f : α → Prog S ε β}
    (hp : Along allowed good Q p) (hf : ∀ a, Q (.ok a) → Along allowed good R (f a))
    (he : ∀ e, Q (.error e) → R (.error e)) : Along allowed good R (p.bind f) :=
  along_bind.2 (hp.mono fun r hr => by
    cases r with
    | ok a => exact hf a hr
    | error e => exact he e hr)

theorem Along.tryCatch {p : Prog S ε α} {f : ε → Prog S ε α} {Q' : Except ε α → Prop}
    (hp : Along allowed good Q p) (hok : ∀ a, Q (.ok a) → Q' (.ok a))
    (he : ∀ e, Q (.error e) → Along allowed good Q' (f e)) :
    Along allowed good Q' (p.tryCatch f) :=
  along_tryCatch.2 (hp.mono fun r hr => by
    cases r with
    | ok a => exact hok a hr
    | error e => exact he e hr)

theorem Along.settle {p : Prog S ε α} (hp : Along allowed good Q p) :
    Along allowed good (fun r => ∃ r', r = .ok r' ∧ Q r') p.settle :=
  along_settle.2 (hp.mono fun r hr => ⟨r, rfl, hr⟩)

theorem Along.perform {o : S.Op} (ho : allowed o) :
    Along allowed good (good o) (Prog.perform o) :=
  along_perform.2 ⟨ho, fun _ => id, fun _ => id⟩

theorem Along.forEach {f : α → Prog S ε Unit} {as : List α} {Q : Except ε Unit → Prop}
    (hf : ∀ a ∈ as, Along allowed good Q (f a)) (hQ : Q (.ok ())) :
    Along allowed good Q (Prog.forEach f as) := by
  induction as with
  | nil => exact hQ
  | cons a as ih =>
    exact (hf a List.mem_cons_self).bind
      (fun _ _ => ih fun b hb => hf b (List.mem_cons_of_mem a hb)) fun _ he => he

/-- What the allowed calls do to the state a program does that runs alone. -/
theorem Along.exec {σ' C' : Type} {h : Handler S ε σ' C'} {c : C'} {P : σ' → σ' → Prop}
    (hrefl : ∀ s, P s s) (htrans : ∀ s s' s'', P s s' → P s' s'' → P s s'')
    (hcall : ∀ s o, allowed o → P s (h c s o).2) {p : Prog S ε α}
    (hp : Along allowed (fun _ _ => True) Q p) (s : σ') : P s (h.exec c p s).2 := by
  induction p generalizing s with
  | ret a => exact hrefl s
  | throw e => exact hrefl s
  | choose k ih => exact ih true (hp true) s
  | call o k ih => exact htrans s _ _ (hcall s o hp.1) (ih _ (hp.2 _ trivial) _)

theorem Along.mapEach {f : α → Prog S ε β} {as : List α} {P : β → Prop}
    (hf : ∀ a ∈ as, Along allowed good (fun r => ∀ b, r = .ok b → P b) (f a)) :
    Along allowed good (fun r => ∀ bs, r = .ok bs → ∀ b ∈ bs, P b) (Prog.mapEach f as) := by
  induction as with
  | nil =>
    rintro _ ⟨⟩
    exact nofun
  | cons a as ih =>
    refine (hf a List.mem_cons_self).bind (fun b hb => ?_) fun _ _ => nofun
    refine (ih fun a' ha' => hf a' (List.mem_cons_of_mem a ha')).bind (fun bs hbs => ?_) fun _ _ => nofun
    rintro _ ⟨⟩
    exact List.forall_mem_cons.2 ⟨hb b rfl, hbs bs rfl⟩

/-- Where every call is allowed, nothing is asked of a program. -/
theorem Along.of_forall (h : ∀ o, allowed o) (p : Prog S ε α) : Along allowed good (fun _ => True) p := by
  induction p with
  | ret | throw => trivial
  | choose k ih => exact ih
  | call o k ih => exact ⟨h o, fun r _ => ih r⟩

/-- A loop returns as many results as it makes rounds. -/
theorem Along.mapEach_length {f : α → Prog S ε β} {as : List α} (h : ∀ o, allowed o) :
    Along allowed good (fun r => ∀ bs, r = .ok bs → bs.length = as.length) (Prog.mapEach f as) := by
  induction as with
  | nil =>
    intro bs hbs
    cases hbs
    rfl
  | cons a as ih =>
    refine (of_forall h (f a)).bind (fun b _ => ih.bind (fun bs hbs => ?_) fun _ _ => nofun) fun _ _ => nofun
    intro bs' hbs'
    cases hbs'
    rw [List.length_cons, hbs bs rfl, List.length_cons]

theorem Along.par {p : Prog S ε α} {q : Prog S ε β} (hp : Along allowed good Q p)
    (hq : Along allowed good R q) :
    Along allowed good (fun r => ∃ a b, r = .ok (a, b) ∧ Q a ∧ R b) (p.par q) := by
  induction p generalizing q with
  | ret a => exact Along.andThen (hq.mono fun r hr => ⟨_, _, rfl, hp, hr⟩)
  | throw e => exact Along.andThen (hq.mono fun r hr => ⟨_, _, rfl, hp, hr⟩)
  | choose k ih => exact fun b => ih b (hp b) hq
  | call o k ih =>
    rw [Prog.par]
    induction q with
    | ret b => exact ⟨hp.1, fun r hr => ih r (hp.2 r hr) hq⟩
    | throw e => exact ⟨hp.1, fun r hr => ih r (hp.2 r hr) hq⟩
    | choose k' ihq => exact fun b => ihq b (hq b)
    | call o' k' ihq =>
      intro b
      cases b with
      | true => exact ⟨hp.1, fun r hr => ih r (hp.2 r hr) hq⟩
      | false => exact ⟨hq.1, fun r hr => ihq r (hq.2 r hr)⟩

theorem Along.allSettled {ps : List (Prog S ε α)} (hps : ∀ p ∈ ps, Along allowed good Q p) :
    Along allowed good (fun r => ∃ rs, r = .ok rs ∧ rs.length = ps.length ∧ ∀ a ∈ rs, Q a)
      (Prog.allSettled ps) := by
  induction ps with
  | nil => exact ⟨[], rfl, rfl, nofun⟩
  | cons p ps ih =>
    have hps' := ih fun q hq => hps q (List.mem_cons_of_mem p hq)
    refine Along.andThen (((hps p List.mem_cons_self).par hps').mono ?_)
    rintro _ ⟨a, _, rfl, ha, rs, rfl, hlen, hrs⟩
    exact ⟨a :: rs, rfl, congrArg (· + 1) hlen, List.forall_mem_cons.2 ⟨ha, hrs⟩⟩

/-- A program all of whose calls leave a party where it is follows any protocol. -/
theorem Follows.of_along {h : Handler S ε σ C} {allows : C → σ → S.Op → Prop}
    {moves : φ → σ → φ → σ → Prop} {x : φ} {p : Prog S ε α}
    (hs : ∀ c s o, allowed o → moves x s x (h c s o).2 ∧ good o (h c s o).1)
    (hp : Along allowed good Q p) : Follows h allows moves (fun y r => y = x ∧ Q r) p x := by
  induction p with
  | ret a => exact ⟨rfl, hp⟩
  | throw e => exact ⟨rfl, hp⟩
  | choose k ih => exact fun b => ih b (hp b)
  | call o k ih => exact fun c s _ =>
      ⟨x, (hs c s o hp.1).1, ih _ (hp.2 _ (hs c s o hp.1).2)⟩

/-- After calls whose replies are good, what is left of a program has the property, and all its calls
were allowed. -/
theorem Runs.along {h : Handler S ε σ C} {p q : Prog S ε α} {tr : List (Event S ε σ C)}
    (hr : Runs h p tr q) (hp : Along allowed good Q p) (hg : ∀ e ∈ tr, good e.op e.reply) :
    Along allowed good Q q ∧ ∀ e ∈ tr, allowed e.op := by
  induction hr with
  | refl => exact ⟨hp, nofun⟩
  | choose b _ ih =>
    obtain ⟨hk, ha⟩ := ih hg
    exact ⟨hk b, ha⟩
  | call c s _ ih =>
    obtain ⟨hk, ha⟩ := ih fun e he => hg e (List.mem_append_left _ he)
    refine ⟨hk.2 _ (hg _ (List.mem_append_right _ (List.mem_singleton.2 rfl))), fun e he => ?_⟩
    rcases List.mem_append.1 he with he | he
    · exact ha e he
    · rw [List.mem_singleton.1 he]
      exact hk.1

/-- A program that may call `o` only after some reply is no longer good has seen such a reply when it is
about to call it. -/
theorem Runs.exists_reply {h : Handler S ε σ C} {p : Prog S ε α} {tr : List (Event S ε σ C)}
    {o : S.Op} {k : Except ε (S.Res o) → Prog S ε α} (hr : Runs h p tr (.call o k))
    (hp : Along allowed good Q p) (ho : ¬ allowed o) : ∃ e ∈ tr, ¬ good e.op e.reply := by
  by_contra hno
  push Not at hno
  exact ho (hr.along hp hno).1.1

/-- A program that made a call it may only make after some reply is no longer good has seen such a
reply. -/
theorem Runs.exists_reply_of_mem {h : Handler S ε σ C} {p q : Prog S ε α} {tr : List (Event S ε σ C)}
    {e : Event S ε σ C} (hr : Runs h p tr q) (hp : Along allowed good Q p) (he : e ∈ tr)
    (ho : ¬ allowed e.op) : ∃ e' ∈ tr, ¬ good e'.op e'.reply := by
  by_contra hno
  push Not at hno
  exact ho ((hr.along hp hno).2 e he)

end rules

/-! ### Footprints -/

/-- While replies are good, a program calls only allowed operations. -/
def Within (allowed : S.Op → Prop) (good : (o : S.Op) → Except ε (S.Res o) → Prop)
    (p : Prog S ε α) : Prop :=
  Along allowed good (fun _ => True) p

namespace Within

variable {allowed : S.Op → Prop} {good : (o : S.Op) → Except ε (S.Res o) → Prop}

theorem of_along {Q : Except ε α → Prop} {p : Prog S ε α} (hp : Along allowed good Q p) :
    Within allowed good p := hp.mono fun _ _ => trivial

theorem ret (a : α) : Within (S := S) (ε := ε) allowed good (.ret a) := trivial

theorem throw (e : ε) : Within (S := S) (α := α) allowed good (.throw e) := trivial

theorem andThen {p : Prog S ε α} {f : Except ε α → Prog S ε β} (hp : Within allowed good p)
    (hf : ∀ r, Within allowed good (f r)) : Within allowed good (p.andThen f) :=
  Along.andThen (Along.mono (fun r _ => hf r) hp)

theorem bind {p : Prog S ε α} {f : α → Prog S ε β} (hp : Within allowed good p)
    (hf : ∀ a, Within allowed good (f a)) : Within allowed good (p.bind f) :=
  Along.bind hp (fun a _ => hf a) fun _ _ => trivial

theorem tryCatch {p : Prog S ε α} {f : ε → Prog S ε α} (hp : Within allowed good p)
    (hf : ∀ e, Within allowed good (f e)) : Within allowed good (p.tryCatch f) :=
  Along.tryCatch hp (fun _ _ => trivial) fun e _ => hf e

theorem settle {p : Prog S ε α} (hp : Within allowed good p) : Within allowed good p.settle :=
  of_along (Along.settle hp)

theorem perform {o : S.Op} (ho : allowed o) : Within allowed good (Prog.perform (ε := ε) o) :=
  of_along (Along.perform ho)

/-- A call whose good replies matter to what follows. -/
theorem perform_bind {o : S.Op} {f : S.Res o → Prog S ε β} (ho : allowed o)
    (hf : ∀ a, good o (.ok a) → Within allowed good (f a)) :
    Within allowed good ((Prog.perform o).bind f) :=
  Along.bind (Along.perform ho) hf fun _ _ => trivial

theorem ite {c : Prop} [Decidable c] {p q : Prog S ε α} (hp : c → Within allowed good p)
    (hq : ¬ c → Within allowed good q) : Within allowed good (if c then p else q) := by
  split
  · next h => exact hp h
  · next h => exact hq h

theorem forEach {f : α → Prog S ε Unit} {as : List α} (hf : ∀ a ∈ as, Within allowed good (f a)) :
    Within allowed good (Prog.forEach f as) :=
  Along.forEach hf trivial

theorem mapEach {f : α → Prog S ε β} {as : List α} (hf : ∀ a ∈ as, Within allowed good (f a)) :
    Within allowed good (Prog.mapEach f as) :=
  of_along (Along.mapEach (P := fun _ => True) fun a ha => Along.mono (fun _ _ _ _ => trivial) (hf a ha))

theorem allSettled {ps : List (Prog S ε α)} (hps : ∀ p ∈ ps, Within allowed good p) :
    Within allowed good (Prog.allSettled ps) :=
  of_along (Along.allSettled hps)

end Within

/-! ### Pools -/

namespace System

variable {ρ E : Type} {sys : System S ε α ρ σ C E} {p p' : Pool S ε α ρ σ C} {ls : List (Label ρ C E)}
  {ok : Pool S ε α ρ σ C → Label ρ C E → Prop}

/-- What is replied in a step has a property, which depends on the request and the store before. -/
def Answers (sys : System S ε α ρ σ C E) (good : ρ → σ → (o : S.Op) → Except ε (S.Res o) → Prop)
    (p : Pool S ε α ρ σ C) : Label ρ C E → Prop
  | .pick i c => ∀ t ∈ p.threads[i]?, ∀ o ∈ t.prog.next?,
      good t.request p.store o (sys.handler c.2 p.store o).1
  | _ => True

instance {good : ρ → σ → (o : S.Op) → Except ε (S.Res o) → Prop} [∀ r s o x, Decidable (good r s o x)]
    (p : Pool S ε α ρ σ C) (l : Label ρ C E) : Decidable (sys.Answers good p l) :=
  match l with
  | .pick i c => inferInstanceAs (Decidable (∀ t ∈ p.threads[i]?, ∀ o ∈ t.prog.next?,
      good t.request p.store o (sys.handler c.2 p.store o).1))
  | .arrive _ | .outside _ => isTrue trivial

variable {good : ρ → σ → (o : S.Op) → Except ε (S.Res o) → Prop}

/-- A reply that a step gives is recorded with its property. -/
theorem Events.answers {l : Label ρ C E} (hl : sys.Answers good p l) (h : sys.step p l = some p')
    (hp : Events (fun r e => good r e.before e.op e.reply) p) :
    Events (fun r e => good r e.before e.op e.reply) p' :=
  hp.step h fun i c t o k hlab ht hprog => by
    subst hlab
    exact hl t ht o (by rw [hprog]; rfl)

end System

end

/-!
## Programs over more operations

A program over one signature is a program over any other that has its operations among its own.
-/

section

variable {S T : Signature} {ε α : Type}

/-- How the operations of `S` are among those of `T`. -/
structure Embedding (S T : Signature) where
  /-- The operation of `T` that an operation of `S` is. -/
  op : S.Op → T.Op
  /-- What it gives. -/
  res : ∀ o, T.Res (op o) → S.Res o

/-- A program over `S`, as one over `T`. -/
def Prog.embed (i : Embedding S T) : Prog S ε α → Prog T ε α
  | .ret a => .ret a
  | .throw e => .throw e
  | .choose k => .choose fun b => (k b).embed i
  | .call o k => .call (i.op o) fun r => (k (r.map (i.res o))).embed i

variable {i : Embedding S T}

/-- An embedded program calls the operations of `S`. -/
theorem Within.embed {allowed : T.Op → Prop} {good : (o : T.Op) → Except ε (T.Res o) → Prop}
    (h : ∀ o, allowed (i.op o)) (p : Prog S ε α) : Within allowed good (p.embed i) := by
  induction p with
  | ret a => trivial
  | throw e => trivial
  | choose k ih => exact ih
  | call o k ih => exact ⟨h o, fun r _ => ih _⟩

end

end Async
