import MessageSync.Proofs.Engine.Mirror
import MessageSync.Proofs.Engine.Reports
import MessageSync.Proofs.Store.Reflect

/-!
# Engines over stores that hold the same

Over a relational store that reflects a store in memory, every operation gives the same
answer, reports the same events and writes the same bytes as over the store in memory, and
the stores go on to reflect each other (`Operation.reflects`). Periods, counters and
properties have to stay in the range of their columns, and the numbers of contacts within 32
bits (`Operation.InRange`).

Plain operations do so over all mirrored stores. The others read properties, or are single
transactions about secrets.
-/

namespace MessageSync

/-- Whether an operation adds a contact. -/
def Operation.adds : {α : Type} → Operation α → Bool
  | _, .addContact _ => true
  | _, _ => false

/-- Whether what an operation brings, and the counters that it finds, are in the range of
their columns. When a contact is added, its number and the next one have 32 bits. -/
structure Operation.InRange {α : Type} (operation : Operation α) (t : Memory) : Prop where
  properties : ∀ p ∈ operation.properties, p.Fits
  periods : ∀ p ∈ operation.periods, Period.Fits p
  counters : ∀ x ∈ t.secrets.values, x.outgoing.toNat < signedSize - 1
  numbers : operation.adds → t.nextContact + 1 < UInt32.size

instance {α : Type} (operation : Operation α) (t : Memory) : Decidable (operation.InRange t) :=
  -- the periods are gone through one by one, and not all numbers
  have : Decidable (∀ p ∈ operation.periods, Period.Fits p) := List.decidableBAll _ _
  decidable_of_iff ((∀ p ∈ operation.properties, p.Fits) ∧
      (∀ p ∈ operation.periods, Period.Fits p) ∧
        (∀ x ∈ t.secrets.values, x.outgoing.toNat < signedSize - 1) ∧
          (operation.adds → t.nextContact + 1 < UInt32.size))
    ⟨fun h => ⟨h.1, h.2.1, h.2.2.1, h.2.2.2⟩,
      fun h => ⟨h.properties, h.periods, h.counters, h.numbers⟩⟩

/-! ## Numbers of contacts -/

/-- In range, contacts are numbered as by a counter of 32 bits. -/
lemma Memory.addContact_number {t : Memory} (h : t.nextContact + 1 < UInt32.size)
    (transports : Properties) :
    (t.addContact transports).1.number = t.nextContact.toUInt32.toNat ∧
      (t.addContact transports).2.nextContact = (t.nextContact.toUInt32 + 1).toNat := by
  have hsize : UInt32.size = 2 ^ 32 := rfl
  have hnext : t.nextContact.toUInt32.toNat = t.nextContact :=
    Nat.mod_eq_of_lt (by omega)
  refine ⟨hnext.symm, ?_⟩
  rw [UInt32.toNat_add, hnext, UInt32.toNat_one, Nat.mod_eq_of_lt (by omega)]
  rfl

/-- In range, the number of a row loses nothing when it is cut to 32 bits. -/
lemma Relational.addContact_number {s : Relational} (h : s.lastContact + 1 < UInt32.size)
    (transports : Properties) :
    (s.addContact transports).1.number = (s.addContact transports).2.lastContact.toUInt32.toNat :=
  (Nat.mod_eq_of_lt h).symm

/-- A contact that is reported was added, under the next number. -/
lemma Operation.number_of_report {α : Type} {operation : Operation α} {e : Engine Memory}
    {sink : Sink} {c : ContactId}
    (h : .contactAdded c ∈ (operation.act.runOn e sink).2.events) :
    operation.adds ∧ c.number = e.store.nextContact := by
  obtain ⟨events, hevents, hmay⟩ := operation.reports ⟨e, [], sink⟩
  have hc : operation.MayReport (.contactAdded c) := by
    rw [Act.runOn, hevents, List.nil_append] at h
    exact hmay _ h
  cases operation with
  | addContact transports =>
    change _ ∈ [Event.contactAdded ⟨e.store.nextContact⟩] at h
    cases List.mem_singleton.mp h
    exact ⟨rfl, rfl⟩
  | _ => simp [Operation.MayReport] at hc

/-- Equal answers, events and bytes of two operations, and stores that are related. -/
structure Agree {α : Type} (Q : Relational → Memory → Prop)
    (r : Except SyncError α × Turn Relational) (r' : Except SyncError α × Turn Memory) : Prop where
  answer : r.1 = r'.1
  events : r.2.events = r'.2.events
  sink : r.2.sink = r'.2.sink
  store : Q r.2.engine.store r'.2.engine.store

/-- Transactions that are alike agree, whether they fail or not. -/
lemma agree_transaction {α : Type} {P Q : Relational → Memory → Prop} {x : Txn Relational α}
    {y : Txn Memory α} (h : Txn.Alike P x y fun _ => Q) (hPQ : ∀ s t, P s t → Q s t)
    {e : Engine Relational} {e' : Engine Memory} (hstore : P e.store e'.store) (sink : Sink) :
    Agree Q ((Act.transaction x).runOn e sink) ((Act.transaction y).runOn e' sink) := by
  obtain ⟨hanswer, hsink, hafter⟩ := h e.store e'.store sink hstore
  simp only [Act.runOn, Act.transaction]
  rcases equal_answers hanswer with ⟨err, _, _, hx, hy⟩ | ⟨a, _, _, hx, hy⟩
  · rw [hx, hy] at hsink ⊢
    exact ⟨rfl, rfl, hsink, hPQ _ _ hstore⟩
  · rw [hx, hy] at hsink hafter ⊢
    exact ⟨rfl, rfl, hsink, hafter a rfl⟩

/-- What follows an operation may go on from its answer and its events. -/
lemma Agree.bind {α β : Type} {Q : Relational → Memory → Prop} {x : Act Relational α}
    {y : Act Memory α} {f : α → Act Relational β} {g : α → Act Memory β} {e : Engine Relational}
    {e' : Engine Memory} {sink : Sink} (h : Agree Q (x.runOn e sink) (y.runOn e' sink))
    (hf : ∀ a t t', t.events = t'.events → t.sink = t'.sink →
      Q t.engine.store t'.engine.store → Agree Q (f a t) (g a t')) :
    Agree Q (Act.runOn (x >>= f) e sink) (Act.runOn (y >>= g) e' sink) := by
  simp only [Act.runOn, Act.bind_apply] at h ⊢
  rcases equal_answers h.answer with ⟨err, t, t', hx, hy⟩ | ⟨a, t, t', hx, hy⟩
  · rw [hx, hy] at h ⊢
    exact ⟨rfl, h.events, h.sink, h.store⟩
  · rw [hx, hy] at h ⊢
    exact hf a t t' h.events h.sink h.store

/-! ## Parts of transactions -/

namespace Txn

variable {P : Relational → Memory → Prop}

lemma alike_requireAll (hP : ∀ s t, P s t → s.Mirrors t) (contacts : List ContactId) :
    Alike P (Engine.requireAll contacts) (Engine.requireAll contacts)
      fun _ s t => P s t ∧ ∀ c ∈ contacts, c ∈ t.contacts := by
  induction contacts generalizing P with
  | nil => exact (alike_pure ()).mono (fun _ _ h => h) fun _ _ _ h => ⟨h, by simp⟩
  | cons c rest ih =>
    refine alike_bind (alike_requireKnown hP c) fun _ => ?_
    refine (ih fun s t h => hP s t h.1).mono (fun _ _ h => h) fun _ s t h => ⟨h.1.1, ?_⟩
    exact List.forall_mem_cons.mpr ⟨h.1.2, h.2⟩

/-- The same secret is found, or the same is missing. -/
lemma alike_requireSecret (hP : ∀ s t, P s t → s.Reflects t) (key : SecretKey) :
    Alike P (Engine.requireSecret key) (Engine.requireSecret key)
      fun x s t => P s t ∧ t.secrets[key]? = some x := by
  have hfind : Query.Alike P (Store.secret key) (Store.secret key)
      fun found s t => P s t ∧ t.secrets[key]? = found :=
    fun s t h => ⟨(hP s t h).secret key, fun _ ha => ⟨h, Except.ok.inj ha⟩⟩
  refine alike_bind (alike_query hfind) fun found => ?_
  cases found with
  | none => exact alike_throw _ _
  | some x => exact fun s t sink h => ⟨rfl, rfl, fun _ hx => Except.ok.inj hx ▸ h⟩

/-- Secrets of contacts that exist are stored. -/
lemma alike_addSecrets (hP : ∀ s t, P s t → s.Reflects t) {xs : List Secret}
    (hxs : ∀ s t, P s t → ∀ x ∈ xs, x.contact ∈ t.contacts) :
    Alike P (query (Store.addSecrets xs)) (query (Store.addSecrets xs))
      fun _ => Relational.Keeps := by
  refine alike_query fun s t h => ?_
  have hcontacts (x : Secret) (hx : x ∈ xs) : x.contact ∈ s.contacts :=
    ((hP s t h).mem_contacts x.contact).mpr (hxs s t h x hx)
  have hadd := (hP s t h).toKeeps.addSecrets hcontacts
  exact ⟨hadd.1, fun _ _ => hadd.2⟩

end Txn

/-! ## Operations that are not plain -/

/-- What an operation that is not plain comes to over either store. -/
lemma Operation.agree {α : Type} (operation : Operation α) (hplain : ¬ operation.plain)
    {e : Engine Relational} {e' : Engine Memory} (h : e.store.Reflects e'.store)
    (hrange : operation.InRange e'.store) (sink : Sink) :
    Agree Relational.Keeps (operation.act.runOn e sink) (operation.act.runOn e' sink) := by
  have hmirrors (s : Relational) (t : Memory) (h : s.Reflects t) : s.Mirrors t := h.toMirrors
  have hkeeps (s : Relational) (t : Memory) (h : s.Reflects t) : s.Keeps t := h.toKeeps
  have hcontact (c : ContactId) := Txn.alike_requireKnown hmirrors c
  have hlocal : Query.Alike Relational.Reflects Store.localTransports Store.localTransports
      fun _ => Relational.Reflects := Query.alike_tryRead fun s t h => h.localTransports
  cases operation with
  | generateTransports c =>
    refine agree_transaction (Txn.alike_bind (hcontact c) fun _ => ?_) hkeeps h sink
    refine Txn.Alike.mono ?_ (fun _ _ h => h.1) fun _ => hkeeps
    refine Txn.alike_bind (Txn.alike_query hlocal) fun found => ?_
    exact Txn.alike_bind (Txn.alike_send _) fun _ => Txn.alike_pure _
  | contactTransports c =>
    have hread : Query.Alike Relational.Reflects (Store.contactTransports c)
        (Store.contactTransports c) fun _ => Relational.Reflects :=
      Query.alike_tryRead fun s t h => h.contactTransports c
    refine agree_transaction (Txn.alike_bind (hcontact c) fun _ => ?_) hkeeps h sink
    exact (Txn.alike_query hread).mono (fun _ _ h => h.1) fun _ => hkeeps
  | localTransports =>
    have hread := (Txn.alike_query hlocal).mono (fun _ _ h => h) fun _ => hkeeps
    refine (agree_transaction hread hkeeps h sink).bind fun a t t' hevents hsink hstore => ?_
    exact ⟨rfl, hevents, hsink, hstore⟩
  | addSecrets xs =>
    refine agree_transaction (Txn.alike_bind (Txn.alike_requireAll hmirrors _) fun _ => ?_) hkeeps h
      sink
    refine Txn.alike_addSecrets (fun _ _ h => h.1) fun s t h x hx => ?_
    exact h.2 x.contact (List.mem_map_of_mem hx)
  | secrets =>
    have hread : Query.Alike Relational.Reflects Store.secrets Store.secrets
        fun _ => Relational.Reflects := Query.alike_tryRead fun s t h => h.allSecrets
    exact agree_transaction ((Txn.alike_query hread).mono (fun _ _ h => h) fun _ => hkeeps) hkeeps h
      sink
  | rotateSecret key period bytes =>
    refine agree_transaction (Txn.alike_bind (hcontact key.contact) fun _ => ?_) hkeeps h sink
    refine Txn.alike_bind (Txn.alike_requireSecret (fun _ _ h => h.1) key) fun x => ?_
    refine Txn.alike_bind (Txn.alike_addSecrets (fun _ _ h => h.1.1) fun s t h y hy => ?_) fun _ =>
      Txn.alike_pure _
    -- the new secret is one of the contact of the key
    have hcontact : x.contact = key.contact :=
      congrArg ContactKey.contact (h.1.1.storable.keyed key x h.2)
    rw [List.mem_singleton.mp hy]
    show x.contact ∈ t.contacts
    rw [hcontact]
    exact h.1.2
  | removeSecretsBefore c transport period =>
    have hperiod : Period.Fits period := hrange.periods period (List.mem_singleton.mpr rfl)
    have hremove : Query.Alike Relational.Reflects (Store.removeSecretsBefore c transport period)
        (Store.removeSecretsBefore c transport period) fun _ => Relational.Keeps :=
      Query.alike_update fun s t h => h.removeSecretsBefore c transport hperiod
    refine agree_transaction (Txn.alike_bind (hcontact c) fun _ => ?_) hkeeps h sink
    exact (Txn.alike_query hremove).mono (fun _ _ h => h.1) fun _ _ _ h => h
  | nextOutgoing key =>
    have hcounters (x : Secret) (hx : e'.store.secrets[key]? = some x) :
        x.outgoing.toNat < signedSize - 1 :=
      hrange.counters x ((Table.mem_values_iff _ x).mpr ⟨key, hx⟩)
    let Countable (s : Relational) (t : Memory) : Prop := s.Reflects t ∧
      ∀ x, t.secrets[key]? = some x → x.outgoing.toNat < signedSize - 1
    have hcount : Query.Alike Countable (Store.incrementConnectionCounter key)
        (Store.incrementConnectionCounter key) fun _ => Relational.Keeps :=
      Query.alike_total fun s t h => h.1.toKeeps.incrementConnectionCounter h.1.storable h.2
    refine agree_transaction (P := Countable) (Txn.alike_bind
      (Txn.alike_requireKnown (fun _ _ h => h.1.toMirrors) key.contact) fun _ => ?_)
      (fun _ _ h => h.1.toKeeps) ⟨h, hcounters⟩ sink
    refine Txn.alike_bind
      ((Txn.alike_query hcount).mono (fun _ _ h => h.1) fun _ _ _ h => h) fun found => ?_
    cases found with
    | none => exact Txn.alike_throw _ _
    | some n => exact Txn.alike_pure n
  | acceptIncoming key n =>
    have hset (window : Window) : Query.Alike Relational.Reflects
        (Store.setConnectionWindow key window) (Store.setConnectionWindow key window)
        fun _ => Relational.Keeps :=
      Query.alike_update fun s t h => h.toKeeps.setConnectionWindow key window
    refine agree_transaction (Txn.alike_bind (hcontact key.contact) fun _ => ?_) hkeeps h sink
    refine Txn.alike_bind (Txn.alike_requireSecret (fun _ _ h => h.1) key) fun x => ?_
    cases x.window.accept n with
    | error refusal => exact Txn.alike_throw _ _
    | ok window =>
      refine Txn.alike_discard ((Txn.alike_query (hset window)).mono (fun _ _ h => h.1.1) ?_)
      exact fun _ _ _ h => h
  | unseenConnections key =>
    refine agree_transaction (Txn.alike_bind (hcontact key.contact) fun _ => ?_) hkeeps h sink
    refine Txn.alike_bind (Txn.alike_requireSecret (fun _ _ h => h.1) key) fun x => ?_
    exact (Txn.alike_pure _).mono (fun _ _ h => h.1.1) fun _ => hkeeps
  | _ => exact absurd rfl hplain

/-! ## All operations -/

/-- What an operation brings is in the range of its columns. -/
lemma Operation.InRange.fits {α : Type} {operation : Operation α} {e : Engine Memory}
    (h : operation.InRange e.store) {sink : Sink} {x : Change} (hx : x ∈ operation.log e sink) :
    x.Fits := by
  have hcauses := causes_of_mem_log hx
  cases x with
  | addContact p | setLocalTransports p _ | setTransports _ p _ => exact h.properties p hcauses
  | addSecrets xs => exact fun y hy => h.periods y.period (hcauses y hy)
  | _ => trivial

/-- A plain operation leaves rows and secrets as they are, unless it removes a contact. -/
lemma Operation.keeps_of_plain {α : Type} (operation : Operation α) (hplain : operation.plain)
    {e : Engine Relational} {e' : Engine Memory} (h : e.store.Reflects e'.store) (sink : Sink) :
    (operation.act.runOn e sink).2.engine.store.Keeps
      (operation.act.runOn e' sink).2.engine.store := by
  by_cases hspares : operation.sparesSecrets
  · obtain ⟨hrows, hversions⟩ := operation.within Relational.sparing hspares ⟨e, [], sink⟩
    have hsecrets := operation.within Memory.sparing hspares ⟨e', [], sink⟩
    exact h.toKeeps.congr hrows hversions hsecrets
  · cases operation with
    | removeContact c =>
      have hremove : Query.Alike Relational.Reflects (Store.removeContact c)
          (Store.removeContact c) fun _ => Relational.Keeps :=
        Query.alike_set fun s t h => h.toKeeps.removeContact c
      have hbody := Txn.alike_bind (Txn.alike_requireKnown (fun _ _ h => h.toMirrors) c) fun _ =>
        (Txn.alike_query hremove).mono (fun _ _ h => h.1) fun _ _ _ h => h
      have hask := agree_transaction hbody (fun _ _ h => h.toKeeps) h sink
      refine (hask.bind fun a t t' hevents hsink hstore => ?_).store
      have hmore := congrArg (fun events : List Event => events ++ [.contactRemoved c]) hevents
      exact ⟨rfl, hmore, hsink, hstore⟩
    | _ => first | exact absurd rfl hspares | cases hplain

/-- Engines over stores that reflect each other, with no offer being answered. -/
structure Engine.Reflects (e : Engine Relational) (e' : Engine Memory) : Prop
    extends e.Mirrors e' where
  reflects : e.store.Reflects e'.store
  idle : e'.openOffers = ∅

/-- Over stores that reflect each other, every operation gives the same answer, reports the
same events and writes the same bytes, and the stores go on to reflect each other. -/
theorem Operation.reflects {α : Type} (operation : Operation α) {e : Engine Relational}
    {e' : Engine Memory} (h : e.Reflects e') (hrange : operation.InRange e'.store) (sink : Sink) :
    Agree Relational.Keeps (operation.act.runOn e sink) (operation.act.runOn e' sink) ∧
      (operation.act.runOn e sink).2.engine.Reflects (operation.act.runOn e' sink).2.engine := by
  have hagree : Agree Relational.Keeps (operation.act.runOn e sink)
      (operation.act.runOn e' sink) := by
    by_cases hplain : operation.plain
    · obtain ⟨hanswer, hafter⟩ :=
        operation.alike hplain ⟨e, [], sink⟩ ⟨e', [], sink⟩ ⟨h.toMirrors, rfl, rfl⟩
      exact ⟨hanswer, hafter.events, hafter.sink, operation.keeps_of_plain hplain h.reflects sink⟩
    · exact operation.agree hplain h.reflects hrange sink
  have hmirrors := operation.mirrors h.toMirrors sink
  have hengine := operation.engine_runOn e' sink
  have hstorable : (operation.act.runOn e' sink).2.engine.store.Storable := by
    rw [hengine]
    exact h.reflects.storable.changes fun x hx => hrange.fits hx
  refine ⟨hagree, hmirrors, ⟨hmirrors.store, hagree.store, hstorable⟩, ?_⟩
  rw [hengine]
  exact h.idle

end MessageSync
