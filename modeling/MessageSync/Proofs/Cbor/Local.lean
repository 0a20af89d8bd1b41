import MessageSync.Proofs.Cbor.Record

/-!
# Reading input that is cut short

What a reader takes does not depend on the bytes that follow: given more of them, it takes
the same and leaves more (`Local`). A reader that takes all of a code can therefore take
nothing from a part of it that is cut short (`Reads.cut`).

A loop that runs to a stop is local if its steps are and if these fail where no head can be
read (`Opens`). Otherwise a step could be taken at the end of the input where a stop would
follow. Loops are bounded by their input, and more input is a greater bound; `LocalIn` says
that the bound makes no difference to what is taken.
-/

namespace MessageSync.Cbor

open Read Write

variable {α β ρ : Type}

/-- Whether a reader takes the same if more bytes follow. -/
def Local (r : Reader α) : Prop :=
  ∀ input a rest more, r input = some (a, rest) → r (input ++ more) = some (a, rest ++ more)

/-- Whether a reader that is bounded by some bytes takes the same if more bytes follow and
the bound is no lower. -/
def LocalIn (r : Bytes → Reader α) : Prop :=
  ∀ bound bound' input a rest more, bound.length ≤ bound'.length →
    r bound input = some (a, rest) → r bound' (input ++ more) = some (a, rest ++ more)

/-- Whether a reader fails where no head can be read. -/
def Opens (r : Reader α) : Prop := ∀ input, readHead input = none → r input = none

/-- From a part of a code that is cut short, nothing is taken. -/
theorem Reads.cut {r : Reader α} {code : Bytes} {a : α} (hr : Reads r code a) (hlocal : Local r)
    (hlen : code.length < 2 ^ 64) {k : Nat} (hk : k < code.length) : r (code.take k) = none := by
  cases hread : r (code.take k) with
  | none => rfl
  | some taken =>
    have hmore := hlocal _ taken.1 taken.2 (code.drop k) hread
    have hall := hr hlen []
    rw [List.take_append_drop] at hmore
    rw [List.append_nil, hmore] at hall
    have hnothing : taken.2 ++ code.drop k = [] := congrArg Prod.snd (Option.some.inj hall)
    have hdrop : (code.drop k).length = 0 := by
      rw [(List.append_eq_nil_iff.mp hnothing).2, List.length_nil]
    rw [List.length_drop] at hdrop
    omega

/-! ## Putting readers together -/

lemma local_pure (a : α) : Local (pure a : Reader α) := by
  intro input b rest more h
  cases h
  rfl

lemma local_failure : Local (failure : Reader α) := by
  intro input b rest more h
  cases h

lemma Local.bind {r : Reader α} {f : α → Reader β} (hr : Local r) (hf : ∀ a, Local (f a)) :
    Local (r >>= f) := by
  intro input b rest more h
  rw [bind_apply] at h ⊢
  obtain ⟨⟨a, mid⟩, hread, hrest⟩ := Option.bind_eq_some_iff.mp h
  rw [hr input a mid more hread, Option.bind_some]
  exact hf a mid b rest more hrest

/-- What is taken may still be found to make no sense. -/
lemma Local.check {r : Reader α} (hr : Local r) (f : α → Option β) :
    Local fun input => (r input).bind fun x => (f x.1).bind fun b => some (b, x.2) := by
  intro input b rest more h
  obtain ⟨⟨a, mid⟩, hread, hrest⟩ := Option.bind_eq_some_iff.mp h
  obtain ⟨b', hb', hsame⟩ := Option.bind_eq_some_iff.mp hrest
  cases hsame
  dsimp only
  rw [hr input a mid more hread, Option.bind_some, hb', Option.bind_some]

lemma LocalIn.local {r : Bytes → Reader α} (h : LocalIn r) : Local fun input => r input input := by
  intro input a rest more hread
  refine h input (input ++ more) input a rest more ?_ hread
  rw [List.length_append]
  omega

/-- A loop is local if one pass more keeps it so. -/
lemma localIn_of_pass {ι : Type} {r : ι → Bytes → Reader α}
    (hnil : ∀ i input, r i [] input = none)
    (hpass : ∀ first first' bound bound',
      (∀ i input a rest more, r i bound input = some (a, rest) →
        r i bound' (input ++ more) = some (a, rest ++ more)) →
      ∀ i input a rest more, r i (first :: bound) input = some (a, rest) →
        r i (first' :: bound') (input ++ more) = some (a, rest ++ more))
    (i : ι) : LocalIn (r i) := by
  intro bound bound' input a rest more hle hread
  induction bound generalizing bound' i input a rest more with
  | nil =>
    rw [hnil] at hread
    cases hread
  | cons first bound ih =>
    cases bound' with
    | nil => exact absurd hle (Nat.not_succ_le_zero _)
    | cons first' bound' =>
      have hle' : bound.length ≤ bound'.length := Nat.le_of_succ_le_succ hle
      refine hpass first first' bound bound' ?_ i input a rest more hread
      exact fun i input a rest more hread => ih i bound' input a rest more hle' hread

lemma Opens.bind {r : Reader α} (hr : Opens r) (f : α → Reader β) : Opens (r >>= f) := by
  intro input h
  rw [bind_apply, hr input h, Option.bind_none]

/-! ## Heads -/

lemma local_take (n : Nat) : Local (take n) := by
  have honto (taken : Bytes) : Local (takeOnto taken n) := by
    induction n generalizing taken with
    | zero =>
      intro input a rest more h
      unfold takeOnto at h ⊢
      cases h
      rfl
    | succ n ih =>
      intro input a rest more h
      cases input with
      | nil => cases h
      | cons b input => exact ih (b :: taken) input a rest more h
  exact honto []

lemma local_argument (info : Nat) : Local (argument info) := by
  have hwide (width : Nat) : Local (do return some (ofBigEndian (← take width))) :=
    (local_take width).bind fun _ => local_pure _
  unfold argument
  split_ifs
  · exact local_pure _
  · exact hwide 1
  · exact hwide 2
  · exact hwide 4
  · exact hwide 8
  · exact local_pure _
  · exact local_failure

lemma local_readHead : Local readHead := by
  intro input h rest more hread
  cases input with
  | nil => cases hread
  | cons first input =>
    rw [List.cons_append]
    rw [readHead] at hread ⊢
    cases harg : argument (first.toNat % 32) input with
    | none =>
      rw [harg] at hread
      cases hread
    | some found =>
      rw [harg] at hread
      obtain ⟨h', hh', hsame⟩ := Option.map_eq_some_iff.mp hread
      cases hsame
      rw [local_argument _ input found.1 found.2 more harg]
      dsimp only
      rw [hh', Option.map_some]

lemma opens_readHead : Opens readHead := fun _ h => h

/-! ## Loops -/

lemma local_times {step : ρ → Reader ρ} (h : ∀ r, Local (step r)) (n : Nat) (r : ρ) :
    Local (times step n r) := by
  induction n generalizing r with
  | zero =>
    intro input a rest more hread
    rw [times] at hread ⊢
    cases hread
    rfl
  | succ n ih =>
    intro input a rest more hread
    rw [times] at hread ⊢
    cases hstep : step r input with
    | none =>
      rw [hstep] at hread
      cases hread
    | some found =>
      rw [hstep] at hread
      rw [h r input found.1 found.2 more hstep]
      exact ih found.1 found.2 a rest more hread

lemma untilStop_of_stop (step : ρ → Reader ρ) (first : UInt8) (bound : Bytes) (r : ρ)
    {input rest : Bytes} (h : readHead input = some (.stop, rest)) :
    untilStop step (first :: bound) r input = some (r, rest) := by
  rw [untilStop, h]

lemma untilStop_of_step (step : ρ → Reader ρ) (first : UInt8) (bound : Bytes) (r : ρ)
    {input : Bytes} (h : ∀ rest, readHead input ≠ some (.stop, rest)) :
    untilStop step (first :: bound) r input =
      (step r input).bind fun x => untilStop step bound x.1 x.2 := by
  rw [untilStop]
  split
  · next rest heq => exact absurd heq (h rest)
  · cases step r input <;> rfl

/-- A step is only taken at a head that is there, so that no stop can come in its place. -/
lemma localIn_untilStop {step : ρ → Reader ρ} (h : ∀ r, Local (step r))
    (hopens : ∀ r, Opens (step r)) (r : ρ) : LocalIn fun bound => untilStop step bound r := by
  refine localIn_of_pass (r := fun r bound => untilStop step bound r) (fun _ _ => rfl) ?_ r
  intro first first' bound bound' ih r input a rest more hread
  cases hhead : readHead input with
  | none =>
    have hnot (rest : Bytes) : readHead input ≠ some (.stop, rest) := by simp [hhead]
    rw [untilStop_of_step step first bound r hnot, hopens r input hhead] at hread
    cases hread
  | some found =>
    have hmore := local_readHead input found.1 found.2 more hhead
    by_cases hstop : found.1 = .stop
    · rw [hstop] at hmore
      have hhead' : readHead input = some (.stop, found.2) := by rw [hhead, ← hstop]
      rw [untilStop_of_stop step first bound r hhead'] at hread
      cases hread
      exact untilStop_of_stop step first' bound' _ hmore
    · have hnot (rest : Bytes) : readHead input ≠ some (.stop, rest) := by
        rw [hhead]
        exact fun heq => hstop (congrArg Prod.fst (Option.some.inj heq))
      have hnot' (rest : Bytes) : readHead (input ++ more) ≠ some (.stop, rest) := by
        rw [hmore]
        exact fun heq => hstop (congrArg Prod.fst (Option.some.inj heq))
      rw [untilStop_of_step step first bound r hnot] at hread
      obtain ⟨x, hx, hrest⟩ := Option.bind_eq_some_iff.mp hread
      rw [untilStop_of_step step first' bound' r hnot', h r input x.1 x.2 more hx]
      exact ih x.1 x.2 a rest more hrest

lemma local_items (length : Option Nat) {step : ρ → Reader ρ} (h : ∀ r, Local (step r))
    (hopens : ∀ r, Opens (step r)) (r : ρ) : Local (items length step r) := by
  cases length with
  | some n => exact local_times h n r
  | none => exact (localIn_untilStop h hopens r).local

lemma local_list (length : Option Nat) {item : Reader α} (h : Local item) (hopens : Opens item) :
    Local (list length item) := by
  have hstep (taken : List α) : Local (do return (← item) :: taken) :=
    h.bind fun _ => local_pure _
  exact (local_items length hstep (fun _ => hopens.bind _) []).bind fun _ => local_pure _

/-! ## Tags -/

lemma localIn_passTags : LocalIn fun bound => passTags bound := by
  refine localIn_of_pass (r := fun (_ : Unit) bound => passTags bound) (fun _ _ => rfl) ?_ ()
  intro first first' bound bound' ih _ input a rest more hread
  rw [passTags] at hread ⊢
  cases hhead : readHead input with
  | none =>
    rw [hhead] at hread
    cases hread
  | some found =>
    obtain ⟨h, mid⟩ := found
    rw [hhead] at hread
    rw [local_readHead input h mid more hhead]
    cases h with
    | tag n => exact ih () mid a rest more hread
    | _ =>
      cases hread
      rfl

lemma local_skipTags : Local skipTags := localIn_passTags.local

lemma opens_skipTags : Opens skipTags := by
  intro input h
  rw [skipTags]
  cases input with
  | nil => rfl
  | cons first input => rw [passTags, h]

lemma local_untagged : Local untagged := local_skipTags.bind fun _ => local_readHead

lemma opens_untagged : Opens untagged := opens_skipTags.bind _

/-! ## Strings -/

lemma chunksOnto_of_stop (lengthOf : Head → Option (Option Nat)) (valid : Bytes → Bool)
    (first : UInt8) (bound : Bytes) (level : Nat) (taken : List Bytes) {input rest : Bytes}
    (h : readHead input = some (.stop, rest)) :
    chunksOnto lengthOf valid (first :: bound) level taken input =
      if level ≤ 1 then some (taken, rest)
      else chunksOnto lengthOf valid bound (level - 1) taken rest := by
  rw [chunksOnto, h]

lemma chunksOnto_of_piece (lengthOf : Head → Option (Option Nat)) (valid : Bytes → Bool)
    (first : UInt8) (bound : Bytes) (level : Nat) (taken : List Bytes) {input rest : Bytes}
    {head : Head} (h : readHead input = some (head, rest)) (hne : head ≠ .stop) :
    chunksOnto lengthOf valid (first :: bound) level taken input =
      match lengthOf head with
      | none => none
      | some none => chunksOnto lengthOf valid bound (level + 1) taken rest
      | some (some n) => (take n rest).bind fun x =>
        if valid x.1 then chunksOnto lengthOf valid bound level (x.1 :: taken) x.2 else none := by
  rw [chunksOnto, h]
  split
  · next heq => cases heq
  · next heq =>
    cases heq
    exact absurd rfl hne
  · next heq =>
    cases heq
    rcases lengthOf head with _ | _ | n
    · rfl
    · rfl
    · dsimp only
      cases take n rest <;> rfl

lemma localIn_chunksOnto (lengthOf : Head → Option (Option Nat)) (valid : Bytes → Bool)
    (level : Nat) (taken : List Bytes) :
    LocalIn fun bound => chunksOnto lengthOf valid bound level taken := by
  refine localIn_of_pass (r := fun (x : Nat × List Bytes) bound =>
    chunksOnto lengthOf valid bound x.1 x.2) (fun _ _ => rfl) ?_ (level, taken)
  intro first first' bound bound' ih ⟨level, taken⟩ input a rest more hread
  dsimp only at hread ih ⊢
  cases hhead : readHead input with
  | none =>
    rw [chunksOnto, hhead] at hread
    cases hread
  | some found =>
    obtain ⟨head, mid⟩ := found
    have hmore := local_readHead input head mid more hhead
    by_cases hstop : head = .stop
    · subst hstop
      rw [chunksOnto_of_stop _ _ _ _ _ _ hhead] at hread
      rw [chunksOnto_of_stop _ _ _ _ _ _ hmore]
      split_ifs at hread ⊢
      · cases hread
        rfl
      · exact ih (level - 1, taken) mid a rest more hread
    · rw [chunksOnto_of_piece _ _ _ _ _ _ hhead hstop] at hread
      rw [chunksOnto_of_piece _ _ _ _ _ _ hmore hstop]
      rcases hlength : lengthOf head with _ | _ | n
      all_goals rw [hlength] at hread
      · cases hread
      · exact ih (level + 1, taken) mid a rest more hread
      · obtain ⟨x, hx, hrest⟩ := Option.bind_eq_some_iff.mp hread
        dsimp only
        rw [local_take n mid x.1 x.2 more hx, Option.bind_some]
        split_ifs at hrest ⊢
        exact ih (level, x.1 :: taken) x.2 a rest more hrest

lemma local_content (lengthOf : Head → Option (Option Nat)) (valid : Bytes → Bool)
    (length : Option Nat) : Local (content lengthOf valid length) := by
  cases length with
  | some n =>
    refine (local_take n).bind fun piece => ?_
    split_ifs
    · exact local_pure _
    · exact local_failure
  | none =>
    intro input a rest more hread
    obtain ⟨x, hx, hsame⟩ := Option.map_eq_some_iff.mp hread
    cases hsame
    have hmore := (localIn_chunksOnto lengthOf valid 1 []).local input x.1 x.2 more hx
    exact congrArg (Option.map _) hmore

lemma local_bytesContent (length : Option Nat) : Local (bytesContent length) :=
  local_content _ _ length

lemma local_textContent (length : Option Nat) : Local (textContent length) :=
  local_content _ _ length

lemma local_string : Local string := by
  refine local_untagged.bind fun head => ?_
  cases head with
  | text length => exact (local_textContent length).check ofUtf8?
  | _ => exact local_failure

lemma opens_string : Opens string := opens_untagged.bind _

lemma local_name : Local name := by
  refine local_untagged.bind fun head => ?_
  split
  · split_ifs
    · exact local_textContent _
    · exact local_failure
  · split_ifs
    · exact local_bytesContent _
    · exact local_failure
  · exact local_failure

lemma opens_name : Opens name := opens_untagged.bind _

/-! ## Numbers -/

lemma local_magnitude : Local magnitude := by
  refine local_readHead.bind fun head => ?_
  cases head with
  | bytes length =>
    refine (local_bytesContent length).bind fun content => ?_
    dsimp only
    split_ifs
    · exact local_pure _
    · exact local_failure
  | _ => exact local_failure

lemma localIn_integerWithin : LocalIn integerWithin := by
  have hmagnitude (sign : Nat → Int) : Local (do return sign (← magnitude)) :=
    local_magnitude.bind fun _ => local_pure _
  refine localIn_of_pass (r := fun (_ : Unit) => integerWithin) (fun _ _ => rfl) ?_ ()
  intro first first' bound bound' ih _ input a rest more hread
  rw [integerWithin, bind_apply] at hread ⊢
  obtain ⟨⟨head, mid⟩, hhead, hrest⟩ := Option.bind_eq_some_iff.mp hread
  rw [local_readHead input head mid more hhead, Option.bind_some]
  cases head with
  | unsigned n =>
    cases hrest
    rfl
  | negative n =>
    cases hrest
    rfl
  | tag n =>
    -- two tags announce long numbers
    rcases n with _ | _ | _ | _ | n
    · exact ih () mid a rest more hrest
    · exact ih () mid a rest more hrest
    · exact hmagnitude (fun m => (m : Int)) mid a rest more hrest
    · exact hmagnitude (fun m => -1 - (m : Int)) mid a rest more hrest
    · exact ih () mid a rest more hrest
  | _ => cases hrest

lemma local_integer : Local integer := localIn_integerWithin.local

lemma opens_integer : Opens integer := by
  intro input h
  rw [Read.integer]
  cases input with
  | nil => rfl
  | cons first input => rw [integerWithin, bind_apply, h, Option.bind_none]

lemma local_natural (bound : Nat) : Local (natural bound) := by
  refine local_integer.bind fun i => ?_
  split_ifs
  · exact local_pure _
  · exact local_failure

lemma local_byte : Local byte := (local_natural _).bind fun _ => local_pure _

lemma opens_byte : Opens byte := (opens_integer.bind _).bind _

lemma local_word32 : Local word32 := (local_natural _).bind fun _ => local_pure _

lemma local_int64 : Local int64 := by
  refine local_integer.bind fun i => ?_
  split_ifs
  · exact local_pure _
  · exact local_failure

/-! ## Sequences -/

lemma local_sequence (ofByte : UInt8 → Option α) {element : Reader α} (h : Local element)
    (hopens : Opens element) : Local (sequence ofByte element) := by
  refine local_untagged.bind fun head => ?_
  cases head with
  | array length => exact local_list length h hopens
  | bytes length => exact (local_bytesContent length).check fun bytes => bytes.mapM ofByte
  | _ => exact local_failure

lemma opens_sequence (ofByte : UInt8 → Option α) (element : Reader α) :
    Opens (sequence ofByte element) := opens_untagged.bind _

lemma local_bytes : Local bytes := local_sequence _ local_byte opens_byte

lemma opens_bytes : Opens bytes := opens_sequence _ _

lemma local_fixedBytes (n : Nat) : Local (fixedBytes n) := by
  have hstep (taken : Bytes) : Local (do return (← byte) :: taken) :=
    local_byte.bind fun _ => local_pure _
  have helements : Local (do
      let reversed ← times (fun taken => do return (← byte) :: taken) n []
      return reversed.reverse) := (local_times hstep n []).bind fun _ => local_pure _
  refine local_untagged.bind fun head => ?_
  split
  · split_ifs
    · exact helements
    · exact local_failure
  · exact helements
  · refine (local_bytesContent _).bind fun all => ?_
    split_ifs
    · exact local_pure _
    · exact local_failure
  · exact local_failure

lemma opens_fixedBytes (n : Nat) : Opens (fixedBytes n) := opens_untagged.bind _

lemma local_ident {kind : IdKind} : Local (ident : Reader (Id kind)) :=
  (local_fixedBytes 32).check Id.ofBytes?

lemma opens_ident {kind : IdKind} : Opens (ident : Reader (Id kind)) := by
  intro input h
  rw [Read.ident, opens_fixedBytes 32 input h]
  rfl

/-! ## Skipping -/

/-- Where there is a head, what a tag announces does not depend on what follows. -/
lemma announcedMagnitude_append {tag : Nat} {head : Head} {input mid rest : Bytes}
    {found : Option Nat} (more : Bytes) (hhead : readHead input = some (head, mid))
    (h : announcedMagnitude tag input = some (found, rest)) :
    announcedMagnitude tag (input ++ more) = some (found, rest ++ more) := by
  have hnone (h : some ((none : Option Nat), input) = some (found, rest)) :
      some (none, input ++ more) = some (found, rest ++ more) := by
    cases h
    rfl
  have hbytes (n : Nat)
      (h : (if n ≤ widestNumber then (take n mid).map fun x => (some (ofBigEndian x.1), x.2)
        else some (none, input)) = some (found, rest)) :
      (if n ≤ widestNumber then (take n (mid ++ more)).map fun x => (some (ofBigEndian x.1), x.2)
        else some (none, input ++ more)) = some (found, rest ++ more) := by
    split_ifs at h ⊢
    · obtain ⟨x, hx, hsame⟩ := Option.map_eq_some_iff.mp h
      cases hsame
      rw [local_take n mid x.1 x.2 more hx]
      rfl
    · exact hnone h
  unfold announcedMagnitude at h ⊢
  rw [hhead] at h
  rw [local_readHead input head mid more hhead]
  -- only two tags announce anything, and only in front of a byte string
  rcases tag with _ | _ | _ | _ | n
  all_goals try exact hnone h
  all_goals
    cases head with
    | bytes length =>
      cases length with
      | none => exact hnone h
      | some n => exact hbytes n h
    | _ => exact hnone h

lemma announcedMagnitude_of_none (tag : Nat) {input : Bytes} (h : readHead input = none) :
    announcedMagnitude tag input = some (none, input) := by
  unfold announcedMagnitude
  rw [h]
  rcases tag with _ | _ | _ | _ | n <;> rfl

lemma opens_skip (levels : Nat) : Opens (skip levels) := by
  intro input h
  rw [skip.eq_def]
  cases levels <;> exact opens_readHead.bind _ input h

lemma local_discard {r : Reader α} (h : Local r) : Local (discard r : Reader Unit) := by
  have hmap : (discard r : Reader Unit) = (fun _ => ()) <$> r := rfl
  rw [hmap, map_eq_pure_bind]
  exact h.bind fun _ => local_pure ()

/-- What a tag stands for is passed over. -/
lemma local_tagged (tag : Nat) {value : Reader Unit} (h : Local value) (hopens : Opens value) :
    Local (do
      match ← announcedMagnitude tag with
      | some m => if tag = negativeTag ∧ negativeBound ≤ m then failure else return ()
      | none => value) := by
  intro input a rest more hread
  rw [bind_apply] at hread ⊢
  obtain ⟨⟨found, mid⟩, hfound, hrest⟩ := Option.bind_eq_some_iff.mp hread
  cases hhead : readHead input with
  | none =>
    -- the value behind the tag is not there
    rw [announcedMagnitude_of_none tag hhead] at hfound
    cases hfound
    have hvalue : value input = some (a, rest) := hrest
    rw [hopens input hhead] at hvalue
    cases hvalue
  | some first =>
    rw [announcedMagnitude_append more hhead hfound, Option.bind_some]
    cases found with
    | none => exact h mid a rest more hrest
    | some m =>
      dsimp only at hrest ⊢
      split_ifs at hrest ⊢
      · cases hrest
      · cases hrest
        rfl

lemma local_skip (levels : Nat) : Local (skip levels) := by
  induction levels using Nat.strongRecOn with
  | ind levels ih =>
    rw [skip.eq_def]
    refine local_readHead.bind fun head => ?_
    cases head with
    | bytes length => exact local_discard (local_bytesContent length)
    | text length => exact local_discard (local_textContent length)
    | unsigned _ | negative _ | float => exact local_pure ()
    | stop => exact local_failure
    | simple n =>
      dsimp only
      split_ifs
      · exact local_pure ()
      · exact local_failure
    | array length =>
      cases levels with
      | zero => exact local_failure
      | succ below =>
        have hbelow := ih below (Nat.lt_succ_self below)
        exact local_items length (fun _ => hbelow) (fun _ => opens_skip below) ()
    | map length =>
      cases levels with
      | zero => exact local_failure
      | succ below =>
        have hbelow := ih below (Nat.lt_succ_self below)
        exact local_items length (fun _ => hbelow.bind fun _ => hbelow)
          (fun _ => (opens_skip below).bind _) ()
    | tag n =>
      cases levels with
      | zero => exact local_tagged n local_failure fun _ _ => rfl
      | succ below => exact local_tagged n (ih below (Nat.lt_succ_self below)) (opens_skip below)

/-! ## Records and forms -/

lemma Local.once {value : Reader α} (h : Local value) (earlier : Option α) (store : α → ρ) :
    Local (once earlier value store) := by
  cases earlier with
  | some _ => exact local_failure
  | none => exact h.bind fun _ => local_pure _

lemma local_record (levels : Nat) {field : Bytes → ρ → Option (Reader ρ)}
    (h : ∀ name r value, field name r = some value → Local value) (empty : ρ) :
    Local (record levels field empty) := by
  refine local_untagged.bind fun head => ?_
  cases head with
  | map length =>
    refine local_items length (fun r => local_name.bind fun name => ?_)
      (fun _ => opens_name.bind _) empty
    cases hfield : field name r with
    | some value => exact h name r value hfield
    | none => exact (local_skip levels).bind fun _ => local_pure r
  | _ => exact local_failure

lemma opens_record (levels : Nat) (field : Bytes → ρ → Option (Reader ρ)) (empty : ρ) :
    Opens (record levels field empty) := opens_untagged.bind _

lemma local_textMap : Local textMap := by
  refine local_untagged.bind fun head => ?_
  cases head with
  | map length =>
    exact local_items length (fun _ => local_string.bind fun _ =>
      local_string.bind fun _ => local_pure _) (fun _ => opens_string.bind _) ∅
  | _ => exact local_failure

/-- The content of a form, behind its name. -/
lemma local_named {form : Bytes → Option (Reader α)}
    (h : ∀ name value, form name = some value → Local value) :
    Local (do
      match form (← name) with
      | some value => value
      | none => failure) := by
  refine local_name.bind fun name => ?_
  cases hform : form name with
  | some value => exact h name value hform
  | none => exact local_failure

lemma local_variant {form : Bytes → Option (Reader α)}
    (h : ∀ name value, form name = some value → Local value) : Local (variant form) := by
  have hcontent := local_named h
  refine local_skipTags.bind fun _ => ?_
  intro input a rest more hread
  have hget (input : Bytes) : (get : Reader Bytes) input = some (input, input) := rfl
  rw [bind_apply, hget, Option.bind_some, bind_apply] at hread ⊢
  obtain ⟨⟨head, mid⟩, hhead, hrest⟩ := Option.bind_eq_some_iff.mp hread
  rw [local_readHead input head mid more hhead, Option.bind_some]
  cases head with
  | map length =>
    rcases length with _ | _ | _ | n
    · cases hrest
    · cases hrest
    · exact hcontent mid a rest more hrest
    · cases hrest
  -- the text is read again, as the name of the form
  | text length => exact hcontent input a rest more hrest
  | _ => cases hrest

end MessageSync.Cbor
