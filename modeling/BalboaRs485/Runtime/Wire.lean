import BalboaRs485.Runtime.Awaiting

/-!
# Commands on the wire

What the journal of a link says about its wire, in every run and whatever other tasks do in
between.

* `exactly_once`: a frame of the participant is written once, between the `prepare` that has
  handed it out and its receipt; nothing else is ever reported as sent.
* `stop_and_wait`: a command goes out after the one before it was confirmed, or in a later epoch.
-/

namespace BalboaRs485

namespace Link

variable {ρ : Type} {cfg : LinkConfig} {world : ρ} {out : List (Event ρ)}

/-! ## Prefixes of a log -/

/-- The runtime after what is in a log. -/
def after (cfg : LinkConfig) (world : ρ) (events : List (Event ρ)) : SpaRuntime ρ :=
  (SpaRuntime.machine cfg.runtime world).runFrom { world } ((calls events).map Prod.fst)

/-- The calls of a log are answered as the runtime answers them. -/
def Traced (cfg : LinkConfig) (world : ρ) (events : List (Event ρ)) : Prop :=
  calls events =
    (SpaRuntime.machine cfg.runtime world).traceFrom { world } ((calls events).map Prod.fst)

theorem after_call (op : SpaRuntime.Op ρ) (answer : SpaRuntime.Out ρ) :
    after cfg world (out ++ [.call op answer]) = ((after cfg world out).step cfg.runtime op).1 := by
  unfold after
  rw [calls_append, List.map_append, Machine.runFrom_append]
  rfl

theorem after_effect (e : Effect) : after cfg world (out ++ [.effect e]) = after cfg world out := by
  unfold after
  rw [calls_append]
  simp [calls]

/-- A part of a log is answered as the whole is. -/
theorem Traced.append {a b : List (Event ρ)} (h : Traced cfg world (a ++ b)) :
    Traced cfg world a ∧ calls b =
      (SpaRuntime.machine cfg.runtime world).traceFrom (after cfg world a) ((calls b).map Prod.fst) := by
  unfold Traced at h
  rw [calls_append, List.map_append, Machine.traceFrom_append] at h
  exact List.append_inj h (by simp)

theorem Traced.call {op : SpaRuntime.Op ρ} {answer : SpaRuntime.Out ρ}
    (h : Traced cfg world (out ++ [.call op answer])) :
    answer = ((after cfg world out).step cfg.runtime op).2 := by
  have hcalls := h.append.2
  simp only [calls, List.filterMap_cons, List.filterMap_nil, List.map_cons, List.map_nil,
    Machine.traceFrom_cons, Machine.traceFrom_nil, List.cons.injEq, Prod.mk.injEq, true_and,
    and_true] at hcalls
  exact hcalls

/-- The message as it is written. -/
abbrev readdressed (message : Transmission) (policy : BusPolicy) : Transmission :=
  { message with frame := message.frame.readdress policy.address }

/-- What an exchange says about the runtime it begins with. -/
theorem Traced.exchange {i : Input ρ} {message : Transmission}
    {guards : List (Commands.GuardCall (Predicate ρ) ρ)} {policy : BusPolicy}
    (h : Traced cfg world (out ++ exchange i message guards policy)) :
    let w := after cfg world out
    let sent := (w.prepare cfg.runtime i.now).1.step cfg.runtime
      (.sent (readdressed message policy) i.receiptAt (ctsAt policy i.now))
    (w.commands.prepare cfg.runtime w.callGuard w.world i.now).1 = some message ∧
      sent.2 = .receipt (.ok ()) ∧
      after cfg world (out ++ Link.exchange i message guards policy) = sent.1 := by
  dsimp only
  have hsplit : out ++ Link.exchange i message guards policy =
      ((out ++ [.call (.prepare i.now) (.handed (some message) guards)]) ++
        [.effect (.write ⟨.participant, message.frame.readdress policy.address,
          i.clock .participant⟩)]) ++
        [.call (.sent (readdressed message policy) i.receiptAt (ctsAt policy i.now))
          (.receipt (.ok ()))] := by
    simp [Link.exchange]
  rw [hsplit] at h ⊢
  have hprepare := h.append.1.append.1.call
  have hsent := h.call
  rw [after_call, after_effect, after_call]
  rw [after_effect, after_call] at hsent
  exact ⟨(SpaRuntime.Out.handed.inj hprepare).1.symm, hsent.symm, rfl⟩

theorem epochs_after (cfg : LinkConfig) (world : ρ) (events : List (Event ρ)) :
    (after cfg world events).commands.engine.Epochs := by
  induction events using List.reverseRecOn with
  | nil =>
    show Engine.Epochs {}
    exact ⟨fun _ h => (by cases h), fun _ h => (by cases h)⟩
  | append_singleton events event ih =>
    cases event with
    | effect e => rwa [after_effect]
    | call op answer =>
      rw [after_call]
      exact SpaRuntime.step_epochs ih op

/-! ## Where an event stands -/

/-- The command an event puts on the wire, and when. -/
def Event.command : Event ρ → Option (Action × ℚ)
  | .call (.sent message at_ _) _ => message.command.map fun action => (action, at_)
  | _ => none

theorem Event.command_plain {event : Event ρ} (h : event.plain = true) : event.command = none := by
  cases event with
  | effect => rfl
  | call op answer =>
    cases op with
    | sent => simp [plain, SpaRuntime.Op.isReceipt] at h
    | _ => rfl

/-- An event of a log that grows is an old one or a new one. -/
theorem split_append {α : Type} {a b l₁ l₂ : List α} {e : α} (h : a ++ b = l₁ ++ e :: l₂) :
    (∃ l, l₂ = l ++ b ∧ a = l₁ ++ e :: l) ∨ ∃ l, l₁ = a ++ l ∧ b = l ++ e :: l₂ := by
  obtain ⟨l, hl₁, hb⟩ | ⟨l, ha, hl₂⟩ := List.append_eq_append_iff.mp h
  · exact Or.inr ⟨l, hl₁, hb⟩
  · cases l with
    | nil => exact Or.inr ⟨[], by simpa using ha.symm, hl₂.symm⟩
    | cons x l =>
      obtain ⟨rfl, rfl⟩ := List.cons.inj hl₂
      exact Or.inl ⟨l, rfl, ha⟩

theorem split_three {α : Type} {x y z e : α} {l₁ l₂ : List α} (h : [x, y, z] = l₁ ++ e :: l₂) :
    (l₁ = [] ∧ e = x ∧ l₂ = [y, z]) ∨ (l₁ = [x] ∧ e = y ∧ l₂ = [z]) ∨
      (l₁ = [x, y] ∧ e = z ∧ l₂ = []) := by
  match l₁ with
  | [] => simp_all
  | [a] => simp_all
  | [a, b] => simp_all
  | a :: b :: c :: l => simp at h

section Exchange

variable (i : Input ρ) (message : Transmission) (guards : List (Commands.GuardCall (Predicate ρ) ρ))
  (policy : BusPolicy)

/-- The three events of an exchange. -/
def Event.prepared : Event ρ := .call (.prepare i.now) (.handed (some message) guards)

def Event.written : Event ρ :=
  .effect (.write ⟨.participant, message.frame.readdress policy.address, i.clock .participant⟩)

def Event.reported : Event ρ :=
  .call (.sent (readdressed message policy) i.receiptAt (ctsAt policy i.now)) (.receipt (.ok ()))

variable {i message guards policy} {l₁ l₂ : List (Event ρ)} {e : Event ρ} {action : Action} {t : ℚ}

/-- The command of an exchange is the last of its events. -/
theorem exchange_command (h : exchange i message guards policy = l₁ ++ e :: l₂)
    (he : e.command = some (action, t)) :
    l₁ = [.prepared i message guards, .written i message policy] ∧
      (readdressed message policy).command = some action ∧ t = i.receiptAt := by
  obtain ⟨-, rfl, -⟩ | ⟨-, rfl, -⟩ | ⟨rfl, rfl, -⟩ := split_three h
  · cases he
  · cases he
  · obtain ⟨action', hcommand, heq⟩ := Option.map_eq_some_iff.mp he
    cases heq
    exact ⟨rfl, hcommand, rfl⟩

end Exchange

/-! ## The ledger -/

/-- In a log the participant only transmits in exchanges. -/
structure Ledger (events : List (Event ρ)) : Prop where
  /-- What is written was handed out just before, and its receipt follows. -/
  written : ∀ l₁ w l₂, events = l₁ ++ .effect (.write w) :: l₂ → w.site = .participant →
    ∃ i message guards policy before later, w = ⟨.participant, message.frame.readdress policy.address,
      i.clock .participant⟩ ∧ l₁ = before ++ [.prepared i message guards] ∧
      l₂ = .reported i message policy :: later
  /-- What is reported was written just before, and the report is accepted. -/
  reported : ∀ l₁ message at_ cts answer l₂,
    events = l₁ ++ .call (.sent message at_ cts) answer :: l₂ → answer = .receipt (.ok ()) ∧
      ∃ w before, l₁ = before ++ [.effect (.write w)] ∧ w.site = .participant ∧
        w.frame = message.frame

theorem mem_of_split {α : Type} {x e : α} {l₁ l₂ : List α} (h : [x] = l₁ ++ e :: l₂) : x = e := by
  have hmem : e ∈ l₁ ++ e :: l₂ := List.mem_append_right _ List.mem_cons_self
  rw [← h, List.mem_singleton] at hmem
  exact hmem.symm

theorem Exchanges.ledger (hx : Exchanges out) : Ledger out := by
  induction hx with
  | nil => exact ⟨fun l₁ w l₂ h => by simp at h, fun l₁ m at_ cts answer l₂ h => by simp at h⟩
  | @plain out _ event hplain ih =>
    constructor
    · intro l₁ w l₂ h hsite
      obtain ⟨l, rfl, hout⟩ | ⟨l, -, hl⟩ := split_append h
      · obtain ⟨i, message, guards, policy, before, later, hw, hbefore, hlater⟩ :=
          ih.written l₁ w l hout hsite
        exact ⟨i, message, guards, policy, before, later ++ [event], hw, hbefore, by rw [hlater]; rfl⟩
      · rw [mem_of_split hl] at hplain
        simp [Event.plain, hsite] at hplain
    · intro l₁ message at_ cts answer l₂ h
      obtain ⟨l, rfl, hout⟩ | ⟨l, -, hl⟩ := split_append h
      · exact ih.reported l₁ message at_ cts answer l hout
      · rw [mem_of_split hl] at hplain
        simp [Event.plain, SpaRuntime.Op.isReceipt] at hplain
  | @exchange out _ i message guards policy ih =>
    constructor
    · intro l₁ w l₂ h hsite
      obtain ⟨l, rfl, hout⟩ | ⟨l, rfl, hl⟩ := split_append h
      · obtain ⟨i', message', guards', policy', before, later, hw, hbefore, hlater⟩ :=
          ih.written l₁ w l hout hsite
        exact ⟨i', message', guards', policy', before, later ++ Link.exchange i message guards policy,
          hw, hbefore, by rw [hlater]; rfl⟩
      · obtain ⟨-, heq, -⟩ | ⟨rfl, heq, rfl⟩ | ⟨-, heq, -⟩ := split_three hl
        · cases heq
        · cases heq
          exact ⟨i, message, guards, policy, out, [], rfl, rfl, rfl⟩
        · cases heq
    · intro l₁ message' at_ cts answer l₂ h
      obtain ⟨l, rfl, hout⟩ | ⟨l, rfl, hl⟩ := split_append h
      · exact ih.reported l₁ message' at_ cts answer l hout
      · obtain ⟨-, heq, -⟩ | ⟨-, heq, -⟩ | ⟨rfl, heq, -⟩ := split_three hl
        · cases heq
        · cases heq
        · cases heq
          exact ⟨rfl, _, out ++ [.prepared i message guards], by rw [List.append_assoc]; rfl, rfl, rfl⟩

/-- The frames the participant has written. -/
def written (events : List (Event ρ)) : List Frame :=
  ((writes (effects events)).filter fun w => w.site = .participant).map Write.frame

/-- The frames the runtime has been told of. -/
def reported (events : List (Event ρ)) : List Frame :=
  (calls events).filterMap fun
    | (.sent message _ _, .receipt (.ok ())) => some message.frame
    | _ => none

theorem written_append (a b : List (Event ρ)) : written (a ++ b) = written a ++ written b := by
  simp [written, writes, effects_append, List.filterMap_append, List.filter_append]

theorem reported_append (a b : List (Event ρ)) : reported (a ++ b) = reported a ++ reported b := by
  simp [reported, calls_append, List.filterMap_append]

/-- The runtime is told of every frame once, in the order they were written in. -/
theorem Exchanges.written_eq (hx : Exchanges out) : written out = reported out := by
  induction hx with
  | nil => rfl
  | plain _ event hplain ih =>
    have hnone : written [event] = [] ∧ reported [event] = [] := by
      cases event with
      | effect e =>
        cases e with
        | write w =>
          have hsite : w.site ≠ .participant := by simpa [Event.plain] using hplain
          exact ⟨by simp [written, effects, writes, hsite], rfl⟩
        | beginSync => exact ⟨rfl, rfl⟩
      | call op answer =>
        cases op with
        | sent => simp [Event.plain, SpaRuntime.Op.isReceipt] at hplain
        | _ => exact ⟨rfl, rfl⟩
    rw [written_append, reported_append, hnone.1, hnone.2, ih]
  | exchange _ i message guards policy ih =>
    rw [written_append, reported_append, ih]
    rfl

/-- **Exactly once**, in every run: what the participant writes is what it has handed out just
    before, and the runtime is told of it at once. -/
theorem exactly_once (cfg : LinkConfig) (nonce : Nonce) (world : ρ) (run : List (Op ρ)) (n : ℕ) :
    Ledger (log cfg nonce world run n) ∧
      written (log cfg nonce world run n) = reported (log cfg nonce world run n) :=
  ⟨(journal cfg nonce world run n).exchanges.ledger,
    (journal cfg nonce world run n).exchanges.written_eq⟩

/-! ## Stop and wait -/

/-- An action, sent at `t`, is confirmed by a call in `l₂`; `l₁` is what has happened before. -/
def Answered (cfg : LinkConfig) (world : ρ) (l₁ l₂ : List (Event ρ)) (action : Action) (t : ℚ) :
    Prop :=
  ∃ k₁ op answer k₂, l₂ = k₁ ++ .call op answer :: k₂ ∧
    (after cfg world (l₁ ++ k₁)).Confirms cfg.runtime action t op

theorem Answered.append {l₁ l₂ : List (Event ρ)} {action : Action} {t : ℚ}
    (h : Answered cfg world l₁ l₂ action t) (l : List (Event ρ)) :
    Answered cfg world l₁ (l₂ ++ l) action t := by
  obtain ⟨k₁, op, answer, k₂, rfl, hconfirms⟩ := h
  exact ⟨k₁, op, answer, k₂ ++ l, by simp, hconfirms⟩

/-- A command in a log was confirmed, or still awaits its outcome at the end. -/
theorem awaits_or_answered (hx : Exchanges out) (ht : Traced cfg world out) {l₁ l₂ : List (Event ρ)}
    {e : Event ρ} {action : Action} {t : ℚ} (h : out = l₁ ++ e :: l₂)
    (he : e.command = some (action, t)) :
    (after cfg world out).commands.engine.Awaits action t ∨
      Answered cfg world (l₁ ++ [e]) l₂ action t := by
  induction hx generalizing l₂ with
  | nil => simp at h
  | @plain out _ event hplain ih =>
    obtain ⟨l, rfl, rfl⟩ | ⟨l, rfl, hl⟩ := split_append h
    · obtain hawaits | hanswered := ih ht.append.1 rfl
      · cases event with
        | effect => exact Or.inl (by rwa [after_effect])
        | call op answer =>
          rw [after_call]
          refine (SpaRuntime.step_awaits (epochs_after cfg world _) hawaits op
            (by simpa [Event.plain] using hplain)).imp_right fun hconfirms => ?_
          exact ⟨l, op, answer, [], rfl, by simpa using hconfirms⟩
      · exact Or.inr (hanswered.append [event])
    · rw [← mem_of_split hl, Event.command_plain hplain] at he
      cases he
  | @exchange out _ i message guards policy ih =>
    obtain ⟨hhanded, hok, hafter⟩ := ht.exchange
    rw [hafter]
    obtain ⟨l, rfl, rfl⟩ | ⟨l, rfl, hl⟩ := split_append h
    · obtain hawaits | hanswered := ih ht.append.1 rfl
      · -- the next command of this exchange is of a later epoch
        have hepochs := epochs_after cfg world (l₁ ++ e :: l)
        obtain hprepared | hfalse := SpaRuntime.step_awaits hepochs hawaits
          (.prepare i.now) rfl
        · refine Or.inl (SpaRuntime.sent_awaits hprepared hok fun next hnext => ?_)
          obtain ⟨next', htoken, rfl⟩ := Transmission.command_some hnext
          have hlater := SpaRuntime.prepare_later hepochs hawaits hhanded htoken
          exact hlater
        · exact hfalse.elim
      · exact Or.inr (hanswered.append _)
    · obtain ⟨-, hcommand, rfl⟩ := exchange_command hl he
      exact Or.inl (SpaRuntime.awaits_sent hok hcommand)

/-- Of two commands in a log, the first is confirmed before the second is sent, or the second is
    of a later epoch. -/
def StopsAndWaits (cfg : LinkConfig) (world : ρ) (events : List (Event ρ)) : Prop :=
  ∀ l₁ e l₂ e' l₃ action t next t', events = (l₁ ++ e :: l₂) ++ e' :: l₃ →
    e.command = some (action, t) → e'.command = some (next, t') →
    action.epoch < next.epoch ∨ Answered cfg world (l₁ ++ [e]) l₂ action t

theorem Exchanges.stopsAndWaits (hx : Exchanges out) (ht : Traced cfg world out) :
    StopsAndWaits cfg world out := by
  induction hx with
  | nil =>
    intro l₁ e l₂ e' l₃ action t next t' h
    simp at h
  | @plain out _ event hplain ih =>
    intro l₁ e l₂ e' l₃ action t next t' h he he'
    obtain ⟨l, rfl, hout⟩ | ⟨l, -, hl⟩ := split_append h
    · exact ih ht.append.1 l₁ e l₂ e' l action t next t' hout he he'
    · rw [← mem_of_split hl, Event.command_plain hplain] at he'
      cases he'
  | @exchange out hx i message guards policy ih =>
    intro l₁ e l₂ e' l₃ action t next t' h he he'
    obtain ⟨l, rfl, hout⟩ | ⟨l, hbefore, hl⟩ := split_append h
    · exact ih ht.append.1 l₁ e l₂ e' l action t next t' hout he he'
    · obtain ⟨rfl, hcommand, -⟩ := exchange_command hl he'
      obtain ⟨l, rfl, rfl⟩ | ⟨l, -, hl⟩ := split_append hbefore.symm
      · obtain hawaits | hanswered := awaits_or_answered hx ht.append.1 rfl he
        · left
          obtain ⟨next', htoken, rfl⟩ := Transmission.command_some hcommand
          have hlater := SpaRuntime.prepare_later (epochs_after cfg world _) hawaits
            ht.exchange.1 htoken
          exact hlater
        · exact Or.inr (hanswered.append _)
      · -- no other event of the exchange is a command
        have hmem : e ∈ l ++ e :: l₂ := List.mem_append_right _ List.mem_cons_self
        rw [← hl] at hmem
        obtain rfl | rfl : e = .prepared i message guards ∨ e = .written i message policy := by
          simpa using hmem
        · cases he
        · cases he

theorem traced_log (cfg : LinkConfig) (nonce : Nonce) (world : ρ) (run : List (Op ρ)) (n : ℕ) :
    Traced cfg world (log cfg nonce world run n) :=
  (journal cfg nonce world run n).trace

/-- **Stop and wait**, in every run: no command goes out while the outcome of another is open,
    unless the spa has meanwhile been connected anew. -/
theorem stop_and_wait (cfg : LinkConfig) (nonce : Nonce) (world : ρ) (run : List (Op ρ)) (n : ℕ) :
    StopsAndWaits cfg world (log cfg nonce world run n) :=
  (journal cfg nonce world run n).exchanges.stopsAndWaits (traced_log cfg nonce world run n)

end Link

end BalboaRs485
