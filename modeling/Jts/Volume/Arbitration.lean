import Jts.Volume.Owner

set_option autoImplicit false

namespace Jts.Volume.Owner

open Shared.Operation (Ends run)
open Shared.Transition (System Reachable ofAct reachable_foldl)

/-- Whatever the doors answer, and wherever the verb is cancelled, it ends as stated. -/
abbrev Always {Result : Type} (operation : OwnerOp Result) (owner : VolumeOwner)
    (post : Except ClaimError Result → VolumeOwner → Prop) : Prop :=
  Ends (fun _ => True) operation.run owner post

section Ledgers

@[simp]
theorem mem_erase {claims : Ledger} {token : Nat} {claim : ClaimHandle} :
    claim ∈ erase claims token ↔ claim ∈ claims ∧ claim.token ≠ token := by
  simp [erase]

/-- One claim of each kind, each under a token of its own that is no longer given out. -/
structure Sound (claims : Ledger) (tokens : Nat) : Prop where
  kinds : (claims.map ClaimHandle.kind).Nodup
  apart : (claims.map ClaimHandle.token).Nodup
  given : ∀ claim ∈ claims, claim.token < tokens

variable {claims : Ledger} {tokens : Nat}

theorem Sound.sublist {fewer : Ledger} (sound : Sound claims tokens) (sub : fewer.Sublist claims) : Sound fewer tokens :=
  ⟨sound.kinds.sublist (sub.map _), sound.apart.sublist (sub.map _), fun claim mem => sound.given claim (sub.subset mem)⟩

theorem Sound.later (sound : Sound claims tokens) : Sound claims (tokens + 1) :=
  ⟨sound.kinds, sound.apart, fun claim mem => (sound.given claim mem).trans (Nat.lt_succ_self _)⟩

theorem Sound.unseat (sound : Sound claims tokens) (token : Nat) : Sound (erase claims token) tokens :=
  sound.sublist List.filter_sublist

theorem Sound.seat {handle : ClaimHandle} (sound : Sound claims tokens) (given : handle.token < tokens)
    (kind : ∀ claim ∈ claims, claim.kind = handle.kind → claim.token = handle.token) :
    Sound (erase claims handle.token ++ [handle]) tokens := by
  have rest := sound.unseat handle.token
  refine ⟨?_, ?_, ?_⟩
  · rw [List.map_append, List.nodup_append]
    refine ⟨rest.kinds, by simp, ?_⟩
    simp only [List.mem_map, mem_erase, List.map_cons, List.map_nil, List.mem_singleton]
    rintro _ ⟨claim, ⟨mem, other⟩, rfl⟩ _ rfl same
    exact other (kind claim mem same)
  · rw [List.map_append, List.nodup_append]
    refine ⟨rest.apart, by simp, ?_⟩
    simp only [List.mem_map, mem_erase, List.map_cons, List.map_nil, List.mem_singleton]
    rintro _ ⟨claim, ⟨_, other⟩, rfl⟩ _ rfl same
    exact other same
  · intro claim mem
    simp only [List.mem_append, List.mem_singleton] at mem
    rcases mem with mem | rfl
    · exact rest.given claim mem
    · exact given

theorem Sound.eq_of_token (sound : Sound claims tokens) {left right : ClaimHandle} (left_mem : left ∈ claims)
    (right_mem : right ∈ claims) (same : left.token = right.token) : left = right :=
  List.inj_on_of_nodup_map sound.apart left_mem right_mem same

theorem Sound.eq_of_kind (sound : Sound claims tokens) {left right : ClaimHandle} (left_mem : left ∈ claims)
    (right_mem : right ∈ claims) (same : left.kind = right.kind) : left = right :=
  List.inj_on_of_nodup_map sound.kinds left_mem right_mem same

theorem mem_of_holds {handle : ClaimHandle} (held : holds claims handle = true) : handle ∈ claims := by
  have found : get claims handle.token = some handle := by
    simpa [holds] using held
  exact List.mem_of_find?_eq_some found

theorem Sound.holds_iff (sound : Sound claims tokens) {handle : ClaimHandle} :
    holds claims handle = true ↔ handle ∈ claims := by
  refine ⟨mem_of_holds, fun mem => ?_⟩
  cases found : get claims handle.token with
  | none =>
      have absent := List.find?_eq_none.mp found handle mem
      simp at absent
  | some other =>
      have token := List.find?_some found
      have same := sound.eq_of_token (List.mem_of_find?_eq_some found) mem (by simpa using token)
      simp [holds, found, same]

theorem topLevelClaim_mem {top : ClaimHandle} (is_top : topLevelClaim claims = some top) : top ∈ claims :=
  List.argmax_mem is_top

/-- No claim that is held outranks the top one. -/
theorem rank_le_top {top : ClaimHandle} (is_top : topLevelClaim claims = some top) {claim : ClaimHandle}
    (mem : claim ∈ claims) : levelRank claim.kind ≤ levelRank top.kind := by
  have le := List.le_of_mem_argmax mem is_top
  rw [Prod.Lex.toLex_le_toLex] at le
  rcases le with lt | ⟨eq, -⟩
  · exact lt.le
  · exact eq.le

theorem topLevelClaim_eq_none : topLevelClaim claims = none ↔ claims = [] := List.argmax_eq_none

end Ledgers

/-- Waiting on a door moves no claim, and shows the ledger as it stands. -/
structure Waits (before after : VolumeOwner) : Prop where
  claims : after.claims = before.claims
  tokens : after.tokens = before.tokens
  seen : ∀ ledger ∈ after.seen, ledger ∈ before.seen ∨ ledger = before.claims

theorem Waits.refl (owner : VolumeOwner) : Waits owner owner := ⟨rfl, rfl, fun _ mem => .inl mem⟩

theorem Waits.trans {first middle last : VolumeOwner} (before : Waits first middle) (after : Waits middle last) :
    Waits first last := by
  refine ⟨after.claims.trans before.claims, after.tokens.trans before.tokens, fun ledger mem => ?_⟩
  rcases after.seen ledger mem with earlier | rfl
  · exact before.seen ledger earlier
  · exact .inr before.claims

theorem door_ends (owner : VolumeOwner) :
    Always door owner fun _ after => Waits owner after ∧ after.written = owner.written := by
  refine .changeThen (.askThen trivial fun answer _ => ?_)
  have waits : Waits owner { owner with seen := owner.seen ++ [owner.claims] } := by
    refine ⟨rfl, rfl, fun ledger mem => ?_⟩
    simpa using mem
  dsimp only
  split
  · exact .raise ⟨waits, rfl⟩
  · exact .give ⟨waits, rfl⟩

theorem readFaderDb_ends (owner : VolumeOwner) :
    Always readFaderDb owner fun _ after => Waits owner after ∧ after.written = owner.written := by
  refine (door_ends owner).andThen (fun answer after waits => ?_) (fun _ _ waits => waits)
  cases answer <;> exact .give waits

theorem setFaderDb_ends (db : Db) (owner : VolumeOwner) :
    Always (setFaderDb db) owner fun _ after => Waits owner after := by
  refine .changeThen ((door_ends _).andThen (fun answer after waits => ?_) (fun _ _ waits => ?_))
  · cases answer <;> exact .give ⟨waits.1.claims, waits.1.tokens, waits.1.seen⟩
  · exact ⟨waits.1.claims, waits.1.tokens, waits.1.seen⟩

theorem setAndConfirmVolume_ends (target : Db) (owner : VolumeOwner) :
    Always (setAndConfirmVolume target) owner fun _ after => Waits owner after := by
  refine (setFaderDb_ends target owner).andThen (fun applied middle set => ?_) (fun _ _ set => set)
  cases applied with
  | false => exact .give set
  | true =>
      exact (readFaderDb_ends middle).andThen (fun _ _ observed => .give (set.trans observed.1))
        (fun _ _ observed => set.trans observed.1)

theorem settle_ends (target : Db) (owner : VolumeOwner) :
    Always (settle target) owner fun _ after => Waits owner after := by
  refine (readFaderDb_ends owner).andThen (fun reading middle observed => ?_) (fun _ _ observed => observed.1)
  split
  · exact .give observed.1
  · exact (setAndConfirmVolume_ends target middle).mono fun _ _ set => observed.1.trans set

theorem apply_ends (owner : VolumeOwner) : Always apply owner fun _ after => Waits owner after := by
  refine .readThen ?_
  split
  · exact .give (.refl owner)
  · exact settle_ends _ owner

theorem nextTokenThen {Result : Type} {next : Nat → OwnerOp Result} {owner : VolumeOwner}
    {post : Except ClaimError Result → VolumeOwner → Prop}
    (here : Always (next owner.tokens) { owner with tokens := owner.tokens + 1 } post) :
    Always (nextToken >>= next) owner post :=
  here

/-- A claim that is outranked as it is seated is not written. -/
theorem establish_ends (handle : ClaimHandle) (owner : VolumeOwner) :
    Always (establish handle) owner fun result after =>
      Waits (owner.seat handle) after ∧
        (topLevelClaim (owner.seat handle).claims ≠ some handle → result = .ok true ∧ after.written = owner.written) := by
  refine .changeThen (.readThen ?_)
  split
  · exact .give ⟨.refl _, fun _ => ⟨rfl, rfl⟩⟩
  · rename_i top
    exact (apply_ends _).mono fun _ _ waits => ⟨waits, fun outranked => absurd outranked top⟩

theorem unwind_ends (handle : ClaimHandle) (owner : VolumeOwner) :
    Always (unwind handle) owner fun _ after => Waits (owner.unseat handle.token) after :=
  .changeThen ((apply_ends _).andThen (fun _ _ waits => .give waits) (fun _ _ waits => waits))

-- The wait for the lock may be cancelled.
theorem holding_ends (owner : VolumeOwner) :
    Always holding owner fun _ after => Waits owner after ∧ after.written = owner.written :=
  (door_ends owner).andThen (fun _ _ waits => .give waits) (fun _ _ waits => waits)

/-- The ledger is sound, and so was every one that could be seen meanwhile. -/
structure Arbitrated (owner : VolumeOwner) : Prop where
  sound : Sound owner.claims owner.tokens
  seen : ∀ ledger ∈ owner.seen, (ledger.map ClaimHandle.kind).Nodup

theorem Arbitrated.waits {before after : VolumeOwner} (arbitrated : Arbitrated before) (waits : Waits before after) :
    Arbitrated after := by
  constructor
  · rw [waits.claims, waits.tokens]
    exact arbitrated.sound
  · intro ledger mem
    rcases waits.seen ledger mem with earlier | rfl
    · exact arbitrated.seen ledger earlier
    · exact arbitrated.sound.kinds

theorem Arbitrated.unseat {owner : VolumeOwner} (arbitrated : Arbitrated owner) (token : Nat) :
    Arbitrated (owner.unseat token) :=
  ⟨arbitrated.sound.unseat token, arbitrated.seen⟩

theorem Arbitrated.seat {owner : VolumeOwner} (arbitrated : Arbitrated owner) {handle : ClaimHandle}
    (given : handle.token < owner.tokens)
    (kind : ∀ claim ∈ owner.claims, claim.kind = handle.kind → claim.token = handle.token) :
    Arbitrated (owner.seat handle) :=
  ⟨arbitrated.sound.seat given kind, arbitrated.seen⟩

/-- A claim of a kind that is not held is seated under the next token. -/
theorem Arbitrated.seatNext {owner : VolumeOwner} (arbitrated : Arbitrated owner) {handle : ClaimHandle}
    (token : handle.token = owner.tokens) (kind : ∀ claim ∈ owner.claims, claim.kind ≠ handle.kind) :
    Arbitrated (VolumeOwner.seat { owner with tokens := owner.tokens + 1 } handle) := by
  have next : Arbitrated { owner with tokens := owner.tokens + 1 } := ⟨arbitrated.sound.later, arbitrated.seen⟩
  exact next.seat (by simp [token]) fun claim mem same => absurd same (kind claim mem)

def SameClaims (before after : VolumeOwner) : Prop := ∀ claim, claim ∈ after.claims ↔ claim ∈ before.claims

theorem Waits.same {before after : VolumeOwner} (waits : Waits before after) : SameClaims before after :=
  fun claim => by rw [waits.claims]

-- A token that nobody holds comes and goes.
theorem mem_unseat_seat {owner : VolumeOwner} {handle : ClaimHandle}
    (fresh : ∀ claim ∈ owner.claims, claim.token ≠ handle.token) (claim : ClaimHandle) :
    claim ∈ ((owner.seat handle).unseat handle.token).claims ↔ claim ∈ owner.claims := by
  simp only [VolumeOwner.seat, VolumeOwner.unseat, mem_erase, List.mem_append, List.mem_singleton]
  constructor
  · rintro ⟨⟨mem, -⟩ | rfl, other⟩
    · exact mem
    · exact absurd rfl other
  · exact fun mem => ⟨.inl ⟨mem, fresh claim mem⟩, fresh claim mem⟩

/-- What a verb leaves: a sound ledger, and the claims as they were where it failed. -/
structure Undoes {Result : Type} (before : VolumeOwner) (result : Except ClaimError Result) (after : VolumeOwner) :
    Prop where
  arbitrated : Arbitrated after
  undone : ∀ error, result = .error error → SameClaims before after

theorem Arbitrated.stops {Result : Type} {before after : VolumeOwner} (arbitrated : Arbitrated before)
    (waits : Waits before after) {result : Except ClaimError Result} : Undoes before result after :=
  ⟨arbitrated.waits waits, fun _ _ => waits.same⟩

theorem Undoes.after {Result : Type} {before middle after : VolumeOwner} {result : Except ClaimError Result}
    (waits : Waits before middle) (undoes : Undoes middle result after) : Undoes before result after :=
  ⟨undoes.arbitrated, fun error failed claim => (undoes.undone error failed claim).trans (waits.same claim)⟩

theorem finite_ends (level : Option Db) (owner : VolumeOwner) :
    Always (finite level) owner fun _ after => after = owner := by
  cases level with
  | none => exact .raise rfl
  | some db => exact .give rfl

/-- The body of a verb that seats a claim and gives it up unless it is established. -/
theorem seating_ends (handle : ClaimHandle) (owner : VolumeOwner) :
    Always (do if ← establish handle then return handle else throw .refused) owner fun _ after =>
      Waits (owner.seat handle) after := by
  refine (establish_ends handle owner).andThen (fun taken after seated => ?_) (fun _ _ seated => seated.1)
  cases taken with
  | true => exact .give seated.1
  | false => exact .raise seated.1

theorem acquireLevel_ends {owner : VolumeOwner} (arbitrated : Arbitrated owner) (kind : ClaimKind)
    (levelDb : Option Db) : Always (acquireLevel kind levelDb) owner (Undoes owner) := by
  unfold acquireLevel
  dsimp only
  split
  · exact .raise (arbitrated.stops (.refl owner))
  · refine (finite_ends levelDb owner).andThen ?_ ?_
    · rintro target _ rfl
      refine (holding_ends _).andThen (fun _ locked waits => ?_) (fun _ _ waits => arbitrated.stops waits.1)
      obtain ⟨waits_lock, -⟩ := waits
      have arbitrated := arbitrated.waits waits_lock
      refine .readThen ?_
      split
      · exact .raise (.after waits_lock (arbitrated.stops (.refl locked)))
      · rename_i free
        have free : ∀ claim ∈ locked.claims, claim.kind ≠ kind := by
          simpa using free
        refine nextTokenThen (.undoing (seating_ends _ _) (fun _ seated waits => ?_) (fun _ seated waits => ?_))
        · exact ⟨(arbitrated.seatNext rfl free).waits waits, fun _ failed => by cases failed⟩
        · refine (unwind_ends _ seated).mono fun _ after unwound error => ?_
          have seated_ok := (arbitrated.seatNext rfl free).waits waits
          refine .after waits_lock ⟨(seated_ok.unseat _).waits unwound, fun _ _ claim => ?_⟩
          have fresh : ∀ claim ∈ locked.claims, claim.token ≠ locked.tokens :=
            fun claim mem => (arbitrated.sound.given claim mem).ne
          rw [unwound.claims, VolumeOwner.unseat, waits.claims]
          exact @mem_unseat_seat { locked with tokens := locked.tokens + 1 } _ fresh claim
    · rintro _ _ rfl
      exact arbitrated.stops (.refl _)

theorem mem_unseat {owner : VolumeOwner} {token : Nat} {claim : ClaimHandle} :
    claim ∈ (owner.unseat token).claims ↔ claim ∈ owner.claims ∧ claim.token ≠ token :=
  mem_erase

/-- The claim that a relevel moves, and back again. -/
theorem Arbitrated.mem_restore {owner : VolumeOwner} (arbitrated : Arbitrated owner) {handle moved : ClaimHandle}
    (held : handle ∈ owner.claims) (fresh : ∀ claim ∈ owner.claims, claim.token ≠ moved.token) (claim : ClaimHandle) :
    claim ∈ (((owner.unseat handle.token).seat moved).restore moved handle).claims ↔ claim ∈ owner.claims := by
  simp only [VolumeOwner.restore, VolumeOwner.seat, VolumeOwner.unseat, mem_erase, List.mem_append, List.mem_singleton]
  constructor
  · rintro (⟨⟨⟨⟨mem, -⟩, -⟩ | rfl, other⟩, -⟩ | rfl)
    · exact mem
    · exact absurd rfl other
    · exact held
  · intro mem
    by_cases same : claim.token = handle.token
    · exact .inr (arbitrated.sound.eq_of_token mem held same)
    · exact .inl ⟨⟨.inl ⟨⟨mem, same⟩, fresh claim mem⟩, fresh claim mem⟩, same⟩

theorem relevel_ends {owner : VolumeOwner} (arbitrated : Arbitrated owner) (handle : ClaimHandle)
    (levelDb : Option Db) : Always (relevel handle levelDb) owner (Undoes owner) := by
  refine (finite_ends levelDb owner).andThen ?_ ?_
  · rintro target _ rfl
    refine (holding_ends _).andThen (fun _ locked waits => ?_) (fun _ _ waits => arbitrated.stops waits.1)
    obtain ⟨waits_lock, -⟩ := waits
    have arbitrated := arbitrated.waits waits_lock
    refine .readThen ?_
    dsimp only
    split
    · exact .raise (.after waits_lock (arbitrated.stops (.refl locked)))
    · rename_i held
      have held : handle ∈ locked.claims := mem_of_holds (by simpa using held)
      have fresh : ∀ claim ∈ locked.claims, claim.token ≠ locked.tokens :=
        fun claim mem => (arbitrated.sound.given claim mem).ne
      have free : ∀ claim ∈ (locked.unseat handle.token).claims, claim.kind ≠ handle.kind := by
        intro claim mem same
        obtain ⟨mem, other⟩ := mem_unseat.mp mem
        exact other (congrArg ClaimHandle.token (arbitrated.sound.eq_of_kind mem held same))
      have moved := @Arbitrated.seatNext _ (arbitrated.unseat handle.token) ⟨handle.kind, locked.tokens, target⟩ rfl free
      refine .changeThen (nextTokenThen (.undoing (seating_ends _ _) (fun _ seated waits => ?_) (fun _ seated waits => ?_)))
      · exact ⟨moved.waits waits, fun _ failed => by cases failed⟩
      · refine .changes fun error => .after waits_lock ⟨?_, fun _ _ claim => ?_⟩
        · refine ((moved.waits waits).unseat _).seat ?_ fun claim mem same => ?_
          · change handle.token < seated.tokens
            rw [waits.tokens]
            exact (arbitrated.sound.given handle held).trans (Nat.lt_succ_self _)
          · obtain ⟨mem, other⟩ := mem_unseat.mp mem
            rw [waits.claims, VolumeOwner.seat, List.mem_append, List.mem_singleton] at mem
            rcases mem with mem | rfl
            · exact absurd same (free claim (mem_erase.mp mem).1)
            · exact absurd rfl other
        · have back := @Arbitrated.mem_restore _ arbitrated _ ⟨handle.kind, locked.tokens, target⟩ held fresh claim
          rw [← back]
          simp only [VolumeOwner.restore, VolumeOwner.seat, VolumeOwner.unseat, waits.claims]
  · rintro _ _ rfl
    exact arbitrated.stops (.refl _)

/-- A declaration under a higher claim is recorded, and writes nothing. -/
theorem declareHouseholdLevelDb_ends {owner : VolumeOwner} (arbitrated : Arbitrated owner) (levelDb : Option Db) :
    Always (declareHouseholdLevelDb levelDb) owner fun _ after =>
      Arbitrated after ∧ ((∃ claim ∈ owner.claims, claim.kind ≠ .household) → after.written = owner.written) := by
  refine (finite_ends levelDb owner).andThen ?_ ?_
  · rintro target _ rfl
    refine (holding_ends _).andThen (fun _ locked waits => ?_) (fun _ _ waits => ⟨arbitrated.waits waits.1, fun _ => waits.2⟩)
    obtain ⟨waits, unwritten⟩ := waits
    have others : Arbitrated { locked with claims := locked.claims.filter fun claim => claim.kind != .household } :=
      ⟨(arbitrated.waits waits).sound.sublist List.filter_sublist, (arbitrated.waits waits).seen⟩
    have free : ∀ claim ∈ locked.claims.filter (fun claim => claim.kind != .household), claim.kind ≠ .household := by
      simp
    have declared := @Arbitrated.seatNext _ others ⟨.household, locked.tokens, target⟩ rfl free
    refine .changeThen (nextTokenThen ((establish_ends _ _).mono fun _ after seated => ?_))
    refine ⟨declared.waits seated.1, ?_⟩
    rintro ⟨higher, mem, kind⟩
    refine (seated.2 fun is_top => ?_).2.trans unwritten
    -- The household ranks below whatever else is held.
    have still : higher ∈ erase (locked.claims.filter fun claim => claim.kind != .household) locked.tokens := by
      rw [mem_erase, List.mem_filter, waits.claims]
      exact ⟨⟨mem, by simpa using kind⟩, ((arbitrated.waits waits).sound.given higher (by rwa [waits.claims])).ne⟩
    have rank := rank_le_top is_top (List.mem_append_left _ still)
    cases higher_kind : higher.kind with
    | household => exact kind higher_kind
    | sessionMeasurement => simp [higher_kind, levelRank] at rank
    | commissioning => simp [higher_kind, levelRank] at rank
  · rintro _ _ rfl
    exact ⟨arbitrated, fun _ => rfl⟩

theorem release_ends {owner : VolumeOwner} (arbitrated : Arbitrated owner) (handle : ClaimHandle) :
    Always (release handle) owner fun _ after => Arbitrated after := by
  refine (holding_ends _).andThen (fun _ locked waits => ?_) (fun _ _ waits => arbitrated.waits waits.1)
  have arbitrated := arbitrated.waits waits.1
  refine .readThen ?_
  split
  · exact .give arbitrated
  · have rest := arbitrated.unseat handle.token
    refine .changeThen (.readThen ?_)
    split
    · exact (readFaderDb_ends _).andThen (fun _ _ waits => .give (rest.waits waits.1)) (fun _ _ waits => rest.waits waits.1)
    · exact (settle_ends _ _).andThen (fun _ _ waits => .give (rest.waits waits)) (fun _ _ waits => rest.waits waits)

/-- A proof is a reading that agrees with the level of a claim that is held and on top. -/
structure Proves (owner : VolumeOwner) (handle : ClaimHandle) (observed : Db) : Prop where
  held : handle ∈ owner.claims
  top : topLevelClaim owner.claims = some handle
  near : |observed - handle.levelDb| ≤ readbackToleranceDb

theorem prove_ends (handle : ClaimHandle) (original : Bool) (owner : VolumeOwner) :
    Always (prove handle original) owner fun result after =>
      Waits owner after ∧ ∀ observed, result = .ok (some observed) → Proves owner handle observed := by
  refine (holding_ends _).andThen (fun _ locked waits => ?_) (fun _ _ waits => ⟨waits.1, by simp⟩)
  obtain ⟨waits_lock, -⟩ := waits
  refine (readFaderDb_ends _).andThen (fun reading after waits => ?_) (fun _ _ waits => ⟨waits_lock.trans waits.1, by simp⟩)
  have waits := waits_lock.trans waits.1
  refine .readThen ?_
  dsimp only
  rw [waits.claims]
  split
  · exact .give ⟨waits, by simp⟩
  · rename_i held
    split
    · exact .give ⟨waits, by simp⟩
    · rename_i top
      split
      · exact .give ⟨waits, by simp⟩
      · rename_i near
        refine .give ⟨waits, fun observed read => ?_⟩
        obtain rfl : reading = some observed := by simpa using read
        have top : topLevelClaim owner.claims = some handle := by
          simp only [Bool.or_eq_true, decide_eq_true_eq, not_or, not_not] at top
          exact top.1
        exact ⟨mem_of_holds (by simpa using held), top, by simpa [faderMatches] using near⟩

theorem Ends.at_ {Result : Type} {operation : OwnerOp Result} {owner : VolumeOwner}
    {post : Except ClaimError Result → VolumeOwner → Prop} (ends : Always operation owner post)
    (answers : List DoorAnswer) : post (operation.run ⟨owner, answers⟩).1 (run operation.run owner answers) :=
  ends.of_run fun answer (_ : answer ∈ answers) => trivial

theorem act_arbitrated {owner : VolumeOwner} (arbitrated : Arbitrated owner) (call : Call) :
    Arbitrated (act owner call) := by
  obtain ⟨verb, answers⟩ := call
  cases verb with
  | acquireLevel kind levelDb => exact (Ends.at_ (acquireLevel_ends arbitrated kind levelDb) answers).arbitrated
  | declareHouseholdLevelDb levelDb => exact (Ends.at_ (declareHouseholdLevelDb_ends arbitrated levelDb) answers).1
  | relevel handle levelDb => exact (Ends.at_ (relevel_ends arbitrated handle levelDb) answers).arbitrated
  | release handle => exact Ends.at_ (release_ends arbitrated handle) answers
  | prove handle original => exact arbitrated.waits (Ends.at_ (prove_ends handle original owner) answers).1

theorem reachable_arbitrated {owner : VolumeOwner} (reached : Reachable ownerSystem owner) : Arbitrated owner := by
  refine reached.invariant ?_ ?_
  · rintro _ rfl
    exact ⟨⟨List.nodup_nil, List.nodup_nil, by simp [VolumeOwner.new]⟩, by simp [VolumeOwner.new]⟩
  · rintro owner call _ arbitrated rfl
    exact act_arbitrated arbitrated call

/-- The level in effect of a ledger is the one of its highest-ranked claim. -/
def HighestInEffect (ledger : Ledger) : Prop :=
  (declaredLevelDb ledger = none ↔ ledger = []) ∧
    ∀ levelDb, declaredLevelDb ledger = some levelDb →
      ∃ top ∈ ledger, top.levelDb = levelDb ∧ ∀ claim ∈ ledger, levelRank claim.kind ≤ levelRank top.kind

theorem highestInEffect (ledger : Ledger) : HighestInEffect ledger := by
  constructor
  · rw [declaredLevelDb, Option.map_eq_none_iff, topLevelClaim_eq_none]
  · intro levelDb in_effect
    obtain ⟨top, is_top, rfl⟩ := Option.map_eq_some_iff.mp in_effect
    exact ⟨top, topLevelClaim_mem is_top, rfl, fun claim mem => rank_le_top is_top mem⟩

/-- What the holders may rely on, at an owner and at every ledger that could be seen on the way to it. -/
structure OwnerContract (owner : VolumeOwner) : Prop where
  single : ∀ ledger, ledger = owner.claims ∨ ledger ∈ owner.seen → (ledger.map ClaimHandle.kind).Nodup
  highest : ∀ ledger, ledger = owner.claims ∨ ledger ∈ owner.seen → HighestInEffect ledger
  acquire : ∀ kind levelDb answers error, ((acquireLevel kind levelDb).run ⟨owner, answers⟩).1 = .error error →
    SameClaims owner (run (acquireLevel kind levelDb).run owner answers)
  relevel : ∀ handle levelDb answers error, ((Owner.relevel handle levelDb).run ⟨owner, answers⟩).1 = .error error →
    SameClaims owner (run (Owner.relevel handle levelDb).run owner answers)
  declare : (∃ claim ∈ owner.claims, claim.kind ≠ .household) → ∀ levelDb answers,
    (run (declareHouseholdLevelDb levelDb).run owner answers).written = owner.written
  prove : ∀ handle original answers observed,
    ((Owner.prove handle original).run ⟨owner, answers⟩).1 = .ok (some observed) → Proves owner handle observed

/-- Whatever the holders call, and whatever the doors answer, the contract holds at every owner that is reached. -/
theorem claims_are_arbitrated {owner : VolumeOwner} (reached : Reachable ownerSystem owner) : OwnerContract owner where
  single := by
    have arbitrated := reachable_arbitrated reached
    rintro ledger (rfl | seen)
    · exact arbitrated.sound.kinds
    · exact arbitrated.seen ledger seen
  highest := fun ledger _ => highestInEffect ledger
  acquire := fun kind levelDb answers error failed =>
    (Ends.at_ (acquireLevel_ends (reachable_arbitrated reached) kind levelDb) answers).undone error failed
  relevel := fun handle levelDb answers error failed =>
    (Ends.at_ (relevel_ends (reachable_arbitrated reached) handle levelDb) answers).undone error failed
  declare := fun higher levelDb answers =>
    (Ends.at_ (declareHouseholdLevelDb_ends (reachable_arbitrated reached) levelDb) answers).2 higher
  prove := fun handle original answers observed proved =>
    (Ends.at_ (prove_ends handle original owner) answers).2 observed proved

def measured : List Call :=
  [⟨.declareHouseholdLevelDb (some (-20)), [.returns none, .returns (some (-20))]⟩,
    ⟨.acquireLevel .sessionMeasurement (some (-12)), [.returns none, .returns (some (-20)), .returns none,
      .returns (some (-12))]⟩]

theorem claims_are_arbitrated_when_measured : OwnerContract (measured.foldl act .new) :=
  claims_are_arbitrated (@reachable_foldl VolumeOwner Call (fun owner => owner = .new) act .new rfl measured)

end Jts.Volume.Owner
