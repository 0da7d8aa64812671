import Mathlib.Data.List.Nodup
import Mathlib.Logic.Function.Basic

/-!
# Fan-out of messages to queues

Messages of several topics go to the queues of the subscribers of their topic. A message is sent by
copying the set of subscribers and then putting it into one queue after the other, while subscribers
come, go and take from their queues. `Inv` accounts for every message: what a live subscriber took,
what is in its queue and what is on the way to it are together the messages of its topic since it
registered; a subscriber that left has got the first of them.
-/

/-- `since` is the length of the log when the subscriber registered. -/
structure Subscriber (τ α : Type*) where
  topic : τ
  since : ℕ
  got : List α
  queue : List α
  live : Bool

/-- `flight` holds the deliveries still to be made of the last message of the log. -/
structure Fanout (ι τ α : Type*) where
  sub : ι → Option (Subscriber τ α)
  log : List (τ × α)
  flight : List (ι × α)

namespace Fanout

/-- An entry of a table in which entry `i` was replaced. -/
theorem update_some {ι β : Type*} [DecidableEq ι] {table : ι → Option β} {i j : ι} {b c : β}
    (h : Function.update table i (some b) j = some c) :
    (j = i ∧ c = b) ∨ (j ≠ i ∧ table j = some c) := by
  by_cases hj : j = i
  · subst hj
    rw [Function.update_self] at h
    exact .inl ⟨rfl, (Option.some.inj h).symm⟩
  · rw [Function.update_of_ne hj] at h
    exact .inr ⟨hj, h⟩

variable {ι τ α : Type*} [DecidableEq ι] [DecidableEq τ]

def inFlight (f : Fanout ι τ α) (i : ι) : List α := (f.flight.filter (·.1 = i)).map Prod.snd

/-- The messages of topic `t` from position `since` of the log on. -/
def messages (log : List (τ × α)) (t : τ) (since : ℕ) : List α :=
  ((log.drop since).filter (·.1 = t)).map Prod.snd

structure Inv (f : Fanout ι τ α) : Prop where
  stream : ∀ i b, f.sub i = some b → b.live →
    b.got ++ b.queue ++ f.inFlight i = messages f.log b.topic b.since
  since : ∀ i b, f.sub i = some b → b.since ≤ f.log.length
  sound : ∀ i b, f.sub i = some b →
    b.got ++ b.queue ++ f.inFlight i <+: messages f.log b.topic b.since
  flight : ∀ p ∈ f.flight, ∃ b, f.sub p.1 = some b ∧ (b.topic, p.2) ∈ f.log

theorem mem_messages {log : List (τ × α)} {t : τ} {since : ℕ} {a : α} (h : a ∈ messages log t since) :
    (t, a) ∈ log.drop since := by
  obtain ⟨p, hp, rfl⟩ := List.mem_map.1 h
  obtain ⟨hp, ht⟩ := List.mem_filter.1 hp
  rw [← of_decide_eq_true ht]
  exact hp

theorem messages_length (log : List (τ × α)) (t : τ) : messages log t log.length = [] := by
  simp [messages]

theorem messages_concat {log : List (τ × α)} {since : ℕ} (h : since ≤ log.length) (t : τ)
    (p : τ × α) : messages (log ++ [p]) t since =
      messages log t since ++ if p.1 = t then [p.2] else [] := by
  unfold messages
  rw [List.drop_append_of_le_length h, List.filter_append, List.map_append, List.filter_singleton]
  by_cases hp : p.1 = t <;> simp [hp]

variable {f : Fanout ι τ α} {i : ι} {b b' : Subscriber τ α} {t : τ} {a : α}

theorem messages_mono {log log' : List (τ × α)} (h : log <+: log') (t : τ) (since : ℕ) :
    messages log t since <+: messages log' t since := by
  obtain ⟨rest, rfl⟩ := h
  unfold messages
  rw [List.drop_append, List.filter_append, List.map_append]
  exact List.prefix_append _ _

theorem messages_sublist (log : List (τ × α)) (t : τ) (since : ℕ) :
    (messages log t since).Sublist (log.map Prod.snd) := by
  unfold messages
  exact (List.filter_sublist.trans (List.drop_sublist _ _)).map _

theorem messages_map {β : Type*} (f : α → β) (log : List (τ × α)) (t : τ) (since : ℕ) :
    messages (log.map fun p => (p.1, f p.2)) t since = (messages log t since).map f := by
  unfold messages
  rw [← List.map_drop, List.filter_map, List.map_map, List.map_map]
  rfl

/-- Where the log has no messages of the topic. -/
theorem messages_skip {log : List (τ × α)} {t : τ} {since n : ℕ} (hn : since ≤ n)
    (h : messages (log.take n) t since = []) : messages log t since = messages log t n := by
  have hdrop : log.drop since = (log.take n).drop since ++ log.drop n := by
    have hsplit : (log.take n ++ log.drop n).drop since =
        (log.take n).drop since ++ (log.drop n).drop (since - (log.take n).length) :=
      List.drop_append
    rw [List.take_append_drop] at hsplit
    by_cases hlen : n ≤ log.length
    · rw [List.length_take_of_le hlen, Nat.sub_eq_zero_of_le hn] at hsplit
      exact hsplit
    · rw [List.drop_eq_nil_of_le (Nat.le_of_not_le hlen), List.drop_nil] at hsplit
      rw [List.drop_eq_nil_of_le (Nat.le_of_not_le hlen)]
      exact hsplit
  unfold messages at h ⊢
  rw [hdrop, List.filter_append, List.map_append, h, List.nil_append]

theorem inFlight_entries {entries : List ι} (hnodup : entries.Nodup) (i : ι) (a : α) :
    ((entries.map fun j => (j, a)).filter (·.1 = i)).map Prod.snd = if i ∈ entries then [a] else [] := by
  induction entries with
  | nil => rfl
  | cons j entries ih =>
    obtain ⟨hj, hnodup⟩ := List.nodup_cons.1 hnodup
    rw [List.map_cons, List.filter_cons]
    by_cases hij : j = i
    · subst hij
      simp [ih hnodup, hj]
    · have hij' : i ≠ j := fun h => hij h.symm
      simp [hij, hij', ih hnodup]

namespace Inv

omit [DecidableEq τ] in
theorem inFlight_eq_nil (hf : ∀ p ∈ f.flight, p.1 ≠ i) : f.inFlight i = [] := by
  unfold inFlight
  rw [List.filter_eq_nil_iff.2 fun p hp => by simpa using hf p hp]
  rfl

theorem register (h : Inv f) (hnone : f.sub i = none) (t : τ) :
    Inv { f with sub := Function.update f.sub i (some ⟨t, f.log.length, [], [], true⟩) } := by
  have hfree : ∀ p ∈ f.flight, p.1 ≠ i := by
    intro p hp hpi
    obtain ⟨b, hb, -⟩ := h.flight p hp
    rw [hpi, hnone] at hb
    cases hb
  refine ⟨fun j b hb hlive => ?_, fun j b hb => ?_, fun j b hb => ?_, fun p hp => ?_⟩
  · rcases update_some hb with ⟨rfl, rfl⟩ | ⟨-, hb⟩
    · rw [messages_length]
      exact inFlight_eq_nil hfree
    · exact h.stream j b hb hlive
  · rcases update_some hb with ⟨rfl, rfl⟩ | ⟨-, hb⟩
    · exact Nat.le_refl _
    · exact h.since j b hb
  · rcases update_some hb with ⟨rfl, rfl⟩ | ⟨-, hb⟩
    · rw [messages_length, List.prefix_nil]
      exact inFlight_eq_nil hfree
    · exact h.sound j b hb
  · obtain ⟨b, hb, hlog⟩ := h.flight p hp
    exact ⟨b, (Function.update_of_ne (hfree p hp) _ _).trans hb, hlog⟩

/-- Where the deliveries in flight go stays known when an entry is replaced. -/
theorem flight_update (h : Inv f) (hb : f.sub i = some b) (htopic : b'.topic = b.topic) :
    ∀ p ∈ f.flight, ∃ c, Function.update f.sub i (some b') p.1 = some c ∧ (c.topic, p.2) ∈ f.log := by
  intro p hp
  obtain ⟨c, hc, hlog⟩ := h.flight p hp
  by_cases hj : p.1 = i
  · rw [hj, hb] at hc
    obtain rfl := Option.some.inj hc
    exact ⟨b', by rw [hj, Function.update_self], by rw [htopic]; exact hlog⟩
  · exact ⟨c, by rw [Function.update_of_ne hj]; exact hc, hlog⟩

/-- A subscriber takes from its queue, or leaves. -/
theorem modify (h : Inv f) (hb : f.sub i = some b) (htopic : b'.topic = b.topic)
    (hsince : b'.since = b.since) (hgot : b'.got ++ b'.queue = b.got ++ b.queue)
    (hlive : b'.live → b.live) : Inv { f with sub := Function.update f.sub i (some b') } := by
  refine ⟨fun j c hc hl => ?_, fun j c hc => ?_, fun j c hc => ?_, h.flight_update hb htopic⟩
  · rcases update_some hc with ⟨rfl, rfl⟩ | ⟨-, hc⟩
    · rw [hgot, htopic, hsince]
      exact h.stream j b hb (hlive hl)
    · exact h.stream j c hc hl
  · rcases update_some hc with ⟨rfl, rfl⟩ | ⟨-, hc⟩
    · rw [hsince]
      exact h.since j b hb
    · exact h.since j c hc
  · rcases update_some hc with ⟨rfl, rfl⟩ | ⟨-, hc⟩
    · rw [hgot, htopic, hsince]
      exact h.sound j b hb
    · exact h.sound j c hc

/-- Everybody leaves. -/
theorem leave (h : Inv f) :
    Inv { f with sub := fun i => (f.sub i).map fun b => { b with live := false } } := by
  refine ⟨fun i b hb hlive => ?_, fun i b hb => ?_, fun i b hb => ?_, fun p hp => ?_⟩
  · obtain ⟨c, -, rfl⟩ := Option.map_eq_some_iff.1 hb
    cases hlive
  · obtain ⟨c, hc, rfl⟩ := Option.map_eq_some_iff.1 hb
    exact h.since i c hc
  · obtain ⟨c, hc, rfl⟩ := Option.map_eq_some_iff.1 hb
    exact h.sound i c hc
  · obtain ⟨c, hc, hlog⟩ := h.flight p hp
    exact ⟨{ c with live := false }, congrArg (Option.map _) hc, hlog⟩

/-- What is on the way to `i` once a message is sent to the live subscribers of its topic. -/
theorem inFlight_send {entries : List ι} (hnodup : entries.Nodup)
    (hmem : ∀ i, i ∈ entries ↔ ∃ b, f.sub i = some b ∧ b.live ∧ b.topic = t) (a : α)
    (hb : f.sub i = some b) (hlive : b.live) :
    inFlight { f with log := f.log ++ [(t, a)], flight := entries.map fun i => (i, a) } i =
      if t = b.topic then [a] else [] := by
  rw [inFlight, inFlight_entries hnodup]
  refine if_congr ?_ rfl rfl
  rw [hmem]
  constructor
  · rintro ⟨c, hc, -, ht⟩
    rw [hb] at hc
    rw [Option.some.inj hc]
    exact ht.symm
  · intro ht
    exact ⟨b, hb, hlive, ht.symm⟩

theorem send (h : Inv f) (hflight : f.flight = []) {entries : List ι} (hnodup : entries.Nodup)
    (hmem : ∀ i, i ∈ entries ↔ ∃ b, f.sub i = some b ∧ b.live ∧ b.topic = t) (a : α) :
    Inv { f with log := f.log ++ [(t, a)], flight := entries.map fun i => (i, a) } := by
  have hold : ∀ i, f.inFlight i = [] := fun i => by
    rw [inFlight, hflight]
    rfl
  refine ⟨fun i b hb hlive => ?_, fun i b hb => ?_, fun i b hb => ?_, fun p hp => ?_⟩
  · have hstream := h.stream i b hb hlive
    rw [hold, List.append_nil] at hstream
    rw [messages_concat (h.since i b hb), ← hstream, inFlight_send hnodup hmem a hb hlive]
  · rw [List.length_append]
    exact Nat.le_add_right_of_le (h.since i b hb)
  · have hsound := h.sound i b hb
    rw [hold, List.append_nil] at hsound
    rw [messages_concat (h.since i b hb)]
    cases hlive : b.live with
    | true =>
      have hstream := h.stream i b hb hlive
      rw [hold, List.append_nil] at hstream
      refine ⟨[], ?_⟩
      rw [List.append_nil, ← hstream, inFlight_send hnodup hmem a hb hlive]
    | false =>
      -- nothing is sent to a subscriber that left
      have hnot : i ∉ entries := fun hi => by
        obtain ⟨c, hc, hlive', -⟩ := (hmem i).1 hi
        rw [hb] at hc
        rw [← Option.some.inj hc, hlive] at hlive'
        cases hlive'
      rw [inFlight, inFlight_entries hnodup, if_neg hnot, List.append_nil]
      exact hsound.trans (List.prefix_append _ _)
  · obtain ⟨i, hi, rfl⟩ := List.mem_map.1 hp
    obtain ⟨b, hb, -, rfl⟩ := (hmem i).1 hi
    exact ⟨b, hb, List.mem_append_right _ (List.mem_singleton_self _)⟩

theorem put (h : Inv f) {rest : List (ι × α)} (hflight : f.flight = (i, a) :: rest)
    (hb : f.sub i = some b) :
    Inv { f with
      sub := Function.update f.sub i (some { b with queue := b.queue ++ [a] })
      flight := rest } := by
  have hself : f.inFlight i = a :: (rest.filter (·.1 = i)).map Prod.snd := by
    rw [inFlight, hflight, List.filter_cons_of_pos (by simp), List.map_cons]
  have hother : ∀ j, j ≠ i → f.inFlight j = (rest.filter (·.1 = j)).map Prod.snd := by
    intro j hj
    rw [inFlight, hflight, List.filter_cons_of_neg (by simpa using fun h => hj h.symm)]
  refine ⟨fun j c hc hlive => ?_, fun j c hc => ?_, fun j c hc => ?_, fun p hp => ?_⟩
  · rcases update_some hc with ⟨rfl, rfl⟩ | ⟨hj, hc⟩
    · have hold := h.stream j b hb hlive
      rw [hself] at hold
      rw [← hold]
      simp [inFlight]
    · have hold := h.stream j c hc hlive
      rw [hother j hj] at hold
      exact hold
  · rcases update_some hc with ⟨rfl, rfl⟩ | ⟨-, hc⟩
    · exact h.since j b hb
    · exact h.since j c hc
  · rcases update_some hc with ⟨rfl, rfl⟩ | ⟨hj, hc⟩
    · have hold := h.sound j b hb
      rw [hself, List.append_cons, List.append_assoc b.got] at hold
      exact hold
    · have hold := h.sound j c hc
      rw [hother j hj] at hold
      exact hold
  · have hold : p ∈ f.flight := by
      rw [hflight]
      exact List.mem_cons_of_mem _ hp
    exact h.flight_update hb (rfl : ({ b with queue := b.queue ++ [a] } : Subscriber τ α).topic = b.topic)
      p hold

end Inv

end Fanout
