import MessageSync.Proofs.Engine.Anchored
import MessageSync.Proofs.Store.Holdings

/-!
# What either store holds of one contact

`Backend.held` and `Backend.common` divide what a store holds into what is of each contact, the
rows of messages apart, and what is of none. In every state that a history leads to, nothing is
held of a contact that does not exist (`Backend.AnchoredTwin.held_eq_empty`).
-/

namespace MessageSync

namespace Backend

/-- What a store holds of a contact, apart from its rows of messages. -/
def held : (backend : Backend) → backend.Data → ContactId → backend.Data
  | .memory, s, c => Memory.held s c
  | .relational, s, c => Relational.held s c

/-- What a store holds, apart from all that is of some contact. -/
def common : (backend : Backend) → backend.Data → backend.Data
  | .memory, s => Memory.common s
  | .relational, s => Relational.common s

/-- Whether rows of secrets are of contacts that exist, in tables of this version. Over a store
in memory this is not asked for. -/
def AnchoredRows : (backend : Backend) → backend.Data → Prop
  | .memory, _ => True
  | .relational, s =>
    Relational.Anchored s ∧ (show Relational from s).versions = Relational.empty.versions

/-- An engine and its twin, whose stores keep acks and secrets with contacts that exist, and
which are not answering any offer. -/
structure AnchoredTwin (backend : Backend) (e : Engine backend.Data) (t : Engine Memory) :
    Prop where
  twin : backend.Twin e t
  anchored : t.store.Anchored
  rows : backend.AnchoredRows e.store
  idle : t.openOffers = ∅

namespace AnchoredTwin

variable {backend : Backend} {e : Engine backend.Data} {t : Engine Memory}

lemma start (backend : Backend) (config : SyncConfig) (now : Int64) :
    backend.AnchoredTwin (backend.start config now) (.start Memory.empty config now) where
  twin := Twin.start backend config now
  anchored := Memory.Anchored.empty
  rows := by
    cases backend with
    | memory => trivial
    | relational =>
      refine ⟨⟨fun k hk => ?_⟩, rfl⟩
      change k ∈ Relational.empty.secrets at hk
      simp [Relational.empty] at hk
  idle := rfl

lemma step (h : backend.AnchoredTwin e t) (step : Step) :
    backend.AnchoredTwin (e.step step) (t.step step) where
  twin := h.twin.step step
  anchored := Engine.anchored_step h.twin.consistent.keyed h.anchored step
  rows := by
    cases backend with
    | memory => trivial
    | relational =>
      cases step with
      | setClock _ | setGate _ => exact h.rows
      | perform operation sink =>
        have hminds := operation.minds h.twin sink
        exact ⟨hminds.anchored h.rows.1, hminds.versions.trans h.rows.2⟩
  idle := (t.openOffers_run [step]).trans h.idle

lemma run (h : backend.AnchoredTwin e t) (history : List Step) :
    backend.AnchoredTwin (e.run history) (t.run history) := by
  induction history generalizing e t with
  | nil => exact h
  | cons first rest ih => exact ih (h.step first)

/-- Every engine that a history leads to has such a twin. -/
lemma of_reaches (h : backend.Reaches e) : ∃ t, backend.AnchoredTwin e t := by
  obtain ⟨config, now, history, rfl⟩ := h
  exact ⟨_, (start backend config now).run history⟩

lemma not_mem_openOffers (h : backend.AnchoredTwin e t) (c : ContactId) : c ∉ e.openOffers := by
  rw [h.twin.openOffers, h.idle]
  exact Std.ExtTreeMap.not_mem_empty

/-! ## Contacts that do not exist -/

variable {c : ContactId}

lemma containsContact (h : backend.AnchoredTwin e t) (hc : c ∉ t.store.contacts) :
    Store.containsContact c e.store = (.ok false, e.store) := by
  refine Prod.ext ?_ (backend.containsContact_snd c e.store)
  refine (h.twin.containsContact c).trans (congrArg Except.ok ?_)
  exact Bool.eq_false_iff.mpr fun hmem => hc (Std.ExtTreeMap.contains_iff_mem.mp hmem)

lemma status_eq_none (h : backend.AnchoredTwin e t) (hc : c ∉ t.store.contacts) (id : MessageId) :
    e.view (Store.status c id) = .ok none := by
  rw [h.twin.status, Except.ok.injEq]
  cases hd : t.store.delivery c id with
  | none => rfl
  | some d => exact absurd (h.twin.consistent.mem_contacts hd) hc

end AnchoredTwin

end Backend

/-- Nothing is held of a contact that does not exist. -/
lemma Memory.held_eq_empty {s : Memory} (hs : s.Consistent) (ha : s.Anchored) {c : ContactId}
    (hc : c ∉ s.contacts) : s.held c = Memory.empty.held c := by
  refine held_eq_iff.mpr ⟨?_, fun b => ?_, fun b => ?_, fun i => ?_⟩
  · simp [(Table.not_mem_iff _ _).mp hc, empty]
  · cases hr : s.sentBatch c b with
    | none => simp [sentBatch, empty]
    | some r => exact absurd (hs.owned c b r hr) hc
  · rw [(Table.not_mem_iff _ _).mp fun hk => hc (ha.toAck _ hk)]
    simp [empty]
  · rw [(Table.not_mem_iff _ _).mp fun hk => hc (ha.secrets _ hk)]
    simp [empty]

theorem Backend.AnchoredTwin.held_eq_empty {backend : Backend} {e : Engine backend.Data}
    {t : Engine Memory} (h : backend.AnchoredTwin e t) {c : ContactId}
    (hc : c ∉ t.store.contacts) : backend.held e.store c = backend.empty := by
  have hmemory := Memory.held_eq_empty h.twin.consistent h.anchored hc
  cases backend with
  | memory =>
    obtain ⟨⟨rfl, -⟩, -⟩ := h
    exact hmemory
  | relational =>
    have hstore : Relational.Mirrors e.store t.store := Engine.Mirrors.store h.twin
    refine hstore.held_eq Relational.Mirrors.empty hmemory fun i => ?_
    -- a row of the contact would need the contact
    have hrow : (⟨c, i⟩ : RawSecretKey) ∉ (show Relational from e.store).secrets := fun hk =>
      hc ((hstore.mem_contacts c).mp (h.rows.1.secrets _ hk))
    refine ((Table.not_mem_iff _ _).mp hrow).trans ?_
    simp [Relational.empty]

end MessageSync
