import Jts.Ring.OpenProtocol
import Mathlib.Tactic.IntervalCases

set_option autoImplicit false

namespace Jts.Ring.OpenProtocol

open Jts.Shared.Flock Jts.Shared.Transition

-- Published by its creator, or by anyone in the same form.
structure Inode.Complete (expected : Geometry) (inode : Inode) : Prop where
  magic : inode.header.magic = magic
  version : inode.header.version = version
  geometry : inode.header.geometry = expected
  size : inode.size = jtsRingFileSize expected

-- What a reclaimer may take for a crashed creation.
def Inode.Torn (inode : Inode) : Prop := ¬(headerBytes ≤ inode.size ∧ inode.header.magic = magic)

theorem Inode.Complete.not_torn {expected : Geometry} (accepted : expected.Accepted) {inode : Inode}
    (complete : inode.Complete expected) : ¬inode.Torn := by
  intro torn
  exact torn ⟨complete.size ▸ Geometry.headerBytes_le_fileSize accepted, complete.magic⟩

def initialised (g : Geometry) (language : Language) (stored : Nat) : Header :=
  ((initStores g language).take stored).foldl (fun header store => store header) .zero

theorem initialised_succ {g : Geometry} {language : Language} {stored : Nat} {store : Header → Header}
    (next : (initStores g language)[stored]? = some store) :
    store (initialised g language stored) = initialised g language (stored + 1) := by
  obtain ⟨inside, same⟩ := List.getElem?_eq_some_iff.mp next
  simp [initialised, List.take_succ_eq_append_getElem inside, same]

-- Until the last store the magic is still the zero of the fresh file.
theorem initialised_magic {g : Geometry} {language : Language} {stored : Nat}
    (unfinished : stored < (initStores g language).length) : (initialised g language stored).magic = 0 := by
  cases language <;>
    simp only [initStores, List.length_append, List.length_cons, List.length_nil] at unfinished <;>
    interval_cases stored <;> rfl

theorem initialised_complete {g : Geometry} {language : Language} {stored : Nat}
    (finished : (initStores g language)[stored]? = none) {size : UInt64} (sized : size = jtsRingFileSize g) :
    Inode.Complete g { size := size, header := initialised g language stored } := by
  have length := List.getElem?_eq_none_iff.mp finished
  have whole : initialised g language stored = initialised g language (initStores g language).length := by
    simp only [initialised, List.take_of_length_le length, List.take_length]
  rw [whole]
  cases language <;> exact ⟨rfl, rfl, rfl, sized⟩

theorem headerValid_iff {expected : Geometry} (accepted : expected.Accepted) (actual : UInt64) (header : Header)
    (language : Language) : headerValid expected actual header language = true ↔
      header.version = version ∧ header.geometry = expected ∧ jtsRingFileSize expected = actual := by
  rw [← validateAttachedMap_ok accepted]
  cases language with
  | rust => simp [headerValid]
  | c =>
    rw [← headerCheck_iff accepted]
    simp [headerValid]

theorem createdSize_eq {expected : Geometry} (accepted : expected.Accepted) (language : Language) :
    createdSize expected language = some (jtsRingFileSize expected) := by
  cases language with
  | rust => simp [createdSize, Geometry.fileSize_accepted accepted, Except.toOption]
  | c => rfl

structure WorldOk (config : Config) (world : World) : Prop where
  below : ∀ inode, world.path = some inode → inode < world.next
  successes : ∀ entry ∈ world.successes, (world.inodes entry.1).Complete config.expected ∧ entry.1 < world.next ∧
    entry.2 ≤ world.unlinks ∧ (entry.2 = world.unlinks → world.path = some entry.1)
  agree : ∀ left ∈ world.successes, ∀ right ∈ world.successes, left.2 = right.2 → left.1 = right.1

def Unreturned (world : World) (inode : Nat) : Prop := ∀ entry ∈ world.successes, entry.1 ≠ inode

-- What an opener knows of its inode. The path can only have been emptied since it was compared.
def PcOk (config : Config) (id : Nat) (world : World) : OpenerPc → Prop
  | .truncate _ inode =>
    inode < world.next ∧ Unreturned world inode ∧ world.inodes inode = { size := 0, header := .zero }
  | .mapCreated _ inode =>
    inode < world.next ∧ Unreturned world inode ∧
      world.inodes inode = { size := jtsRingFileSize config.expected, header := .zero }
  | .init _ inode stored =>
    inode < world.next ∧ Unreturned world inode ∧ world.inodes inode =
      { size := jtsRingFileSize config.expected, header := initialised config.expected (config.language id) stored }
  | .createdCheck _ inode | .attachedCheck _ inode =>
    inode < world.next ∧ (world.inodes inode).Complete config.expected
  | .cleanupCheck inode | .reclaimCheck _ inode => (world.inodes inode).Torn
  | .cleanupUnlink inode | .reclaimUnlink _ inode =>
    (world.inodes inode).Torn ∧ (world.path = some inode ∨ world.path = none)
  | .fstatOpened _ inode | .waitSize _ inode => inode < world.next
  | .mapExisting _ inode actual | .waitMagic _ inode actual =>
    inode < world.next ∧ (world.inodes inode).size = actual ∧ headerBytes ≤ actual
  | .validate _ inode actual =>
    inode < world.next ∧ (world.inodes inode).size = actual ∧ (world.inodes inode).header.magic = magic
  | .unlock (some entry) | .returned entry => entry ∈ world.successes
  | .idle | .tryLock | .attempt _ | .openExisting _ | .unlock none | .failed => True

theorem PcOk.retry {config : Config} {id : Nat} {world : World} (opener : Opener) (attempt : Nat) :
    PcOk config id world (opener.retry attempt).pc := by
  cases mode : opener.mode <;> simp [Opener.retry, mode, PcOk]

theorem PcOk.torn {config : Config} {id : Nat} {world : World} (opener : Opener) {attempt inode : Nat}
    (torn : (world.inodes inode).Torn) : PcOk config id world (opener.torn attempt inode).pc := by
  cases mode : opener.mode <;> simp [Opener.torn, mode, PcOk, torn]

-- A created inode is new to every history.
theorem WorldOk.create {config : Config} {world : World} (ok : WorldOk config world) (free : world.path = none) :
    WorldOk config world.create := by
  refine ⟨?_, ?_, ok.agree⟩
  next =>
    intro inode linked
    simp only [World.create, Option.some.injEq] at linked ⊢
    omega
  next =>
    intro entry inside
    obtain ⟨complete, below, old, current⟩ := ok.successes entry inside
    have other : entry.1 ≠ world.next := Nat.ne_of_lt below
    refine ⟨by simpa [World.create, other] using complete, Nat.lt_succ_of_lt below, old, ?_⟩
    intro same
    simpa [free] using current same

-- Changing an inode that no success returned.
theorem WorldOk.setInode {config : Config} {world : World} (ok : WorldOk config world) {inode : Nat}
    {value : Inode} (fresh : Unreturned world inode) :
    WorldOk config (world.setInode inode value) := by
  refine ⟨ok.below, ?_, ok.agree⟩
  intro entry inside
  have other : entry.1 ≠ inode := fresh entry inside
  simpa [World.setInode, other] using ok.successes entry inside

theorem WorldOk.unlinkTorn {config : Config} (accepted : config.expected.Accepted) {world : World}
    (ok : WorldOk config world) {inode : Nat} (torn : (world.inodes inode).Torn)
    (path : world.path = some inode ∨ world.path = none) : WorldOk config { world with path := none } := by
  refine ⟨by simp, ?_, ok.agree⟩
  intro entry inside
  obtain ⟨complete, below, old, current⟩ := ok.successes entry inside
  refine ⟨complete, below, old, ?_⟩
  intro same
  rcases path with linked | gone
  next =>
    have this : inode = entry.1 := Option.some.inj (linked.symm.trans (current same))
    exact absurd (this ▸ torn) (complete.not_torn accepted)
  next => exact gone.symm.trans (current same)

theorem WorldOk.succeed {config : Config} {world : World} (ok : WorldOk config world) {inode : Nat}
    (below : inode < world.next) (complete : (world.inodes inode).Complete config.expected)
    (linked : world.path = some inode) : WorldOk config (world.succeed inode) := by
  have current : ∀ entry ∈ world.successes, entry.2 = world.unlinks → entry.1 = inode := by
    intro entry inside same
    exact Option.some.inj (((ok.successes entry inside).2.2.2 same).symm.trans linked)
  refine ⟨ok.below, ?_, ?_⟩
  next =>
    intro entry inside
    rcases List.mem_append.mp inside with old | new
    next => exact ok.successes entry old
    next =>
      obtain rfl := List.mem_singleton.mp new
      exact ⟨complete, below, le_rfl, fun _ => linked⟩
  next =>
    intro left insideLeft right insideRight same
    rcases List.mem_append.mp insideLeft with oldLeft | newLeft <;>
      rcases List.mem_append.mp insideRight with oldRight | newRight
    next => exact ok.agree left oldLeft right oldRight same
    next =>
      obtain rfl := List.mem_singleton.mp newRight
      exact current left oldLeft same
    next =>
      obtain rfl := List.mem_singleton.mp newLeft
      exact (current right oldRight same.symm).symm
    next =>
      obtain rfl := List.mem_singleton.mp newLeft
      obtain rfl := List.mem_singleton.mp newRight
      rfl

theorem finalCheck_ok {config : Config} {id : Nat} {world : World} (ok : WorldOk config world) (opener : Opener)
    {attempt inode : Nat} (below : inode < world.next) (complete : (world.inodes inode).Complete config.expected)
    (fails : Bool) :
    WorldOk config (opener.finalCheck world attempt inode fails).1 ∧
      PcOk config id (opener.finalCheck world attempt inode fails).1
        (opener.finalCheck world attempt inode fails).2.pc := by
  unfold Opener.finalCheck
  split_ifs with failed linked
  next => exact ⟨ok, trivial⟩
  next => exact ⟨ok.succeed below complete linked, by simp [PcOk, World.succeed]⟩
  next => exact ⟨ok, .retry opener attempt⟩

theorem magic_ne_zero : (0 : UInt32) ≠ magic := by decide

-- One step of an opener, program counter by program counter.
theorem step_ok {config : Config} (accepted : config.expected.Accepted) {id : Nat} {world : World}
    (ok : WorldOk config world) {opener : Opener} (pcOk : PcOk config id world opener.pc) (holder : Option Nat)
    (fails expired : Bool) :
    WorldOk config (opener.step config id world holder fails expired).1 ∧
      PcOk config id (opener.step config id world holder fails expired).1
        (opener.step config id world holder fails expired).2.2.pc := by
  cases at_ : opener.pc with
  | idle | returned | failed =>
    simp only [Opener.step, at_]
    exact ⟨ok, at_ ▸ pcOk⟩
  | tryLock =>
    simp only [Opener.step, at_]
    split_ifs
    next => exact ⟨ok, trivial⟩
    next => exact ⟨ok, by cases opener.mode <;> trivial⟩
    next => exact ⟨ok, trivial⟩
    next => exact ⟨ok, by rw [at_]; trivial⟩
  | attempt attempt =>
    simp only [Opener.step, at_]
    split_ifs with exhausted failed free
    next => exact ⟨ok, trivial⟩
    next => exact ⟨ok, trivial⟩
    next =>
      have fresh : Unreturned world world.next := fun entry inside => Nat.ne_of_lt (ok.successes entry inside).2.1
      exact ⟨ok.create free, Nat.lt_succ_self _, fresh, Function.update_self _ _ _⟩
    next => exact ⟨ok, trivial⟩
  | truncate attempt inode =>
    rw [at_] at pcOk
    obtain ⟨below, fresh, empty⟩ := pcOk
    have unpublished : (world.inodes inode).header.magic = 0 := by rw [empty]; rfl
    have torn : (world.inodes inode).Torn := fun complete => magic_ne_zero (unpublished.symm.trans complete.2)
    simp only [Opener.step, at_, createdSize_eq accepted]
    split_ifs with failed
    next => exact ⟨ok, torn⟩
    next => exact ⟨ok.setInode fresh, below, fresh, by simp [World.setInode, empty]⟩
  | mapCreated attempt inode =>
    rw [at_] at pcOk
    obtain ⟨below, fresh, sized⟩ := pcOk
    have unpublished : (world.inodes inode).header.magic = 0 := by rw [sized]; rfl
    have torn : (world.inodes inode).Torn := fun complete => magic_ne_zero (unpublished.symm.trans complete.2)
    simp only [Opener.step, at_]
    split_ifs with failed
    next => exact ⟨ok, torn⟩
    next => exact ⟨ok, below, fresh, sized⟩
  | init attempt inode stored =>
    rw [at_] at pcOk
    obtain ⟨below, fresh, partway⟩ := pcOk
    simp only [Opener.step, at_]
    split
    next store next =>
      exact ⟨ok.setInode fresh, below, fresh, by simp [World.setInode, partway, initialised_succ next]⟩
    next finished =>
      refine ⟨ok, below, ?_⟩
      rw [partway]
      exact initialised_complete finished rfl
  | createdCheck attempt inode | attachedCheck attempt inode =>
    rw [at_] at pcOk
    simp only [Opener.step, at_]
    exact finalCheck_ok ok opener pcOk.1 pcOk.2 fails
  | cleanupCheck inode =>
    rw [at_] at pcOk
    simp only [Opener.step, at_]
    split_ifs with linked
    next => exact ⟨ok, pcOk, .inl (by simp_all)⟩
    next => exact ⟨ok, trivial⟩
  | cleanupUnlink inode =>
    rw [at_] at pcOk
    simp only [Opener.step, at_]
    split_ifs
    next => exact ⟨ok, trivial⟩
    next => exact ⟨ok.unlinkTorn accepted pcOk.1 pcOk.2, trivial⟩
  | openExisting attempt =>
    simp only [Opener.step, at_]
    split_ifs
    next => exact ⟨ok, trivial⟩
    next =>
      split
      next => exact ⟨ok, .retry opener attempt⟩
      next inode linked => exact ⟨ok, ok.below inode linked⟩
  | fstatOpened attempt inode =>
    rw [at_] at pcOk
    simp only [Opener.step, at_]
    split_ifs
    next => exact ⟨ok, trivial⟩
    next => exact ⟨ok, pcOk⟩
  | waitSize attempt inode =>
    rw [at_] at pcOk
    simp only [Opener.step, at_]
    split_ifs with failed mappable expired
    next => exact ⟨ok, trivial⟩
    next => exact ⟨ok, pcOk, rfl, mappable⟩
    next => exact ⟨ok, .torn opener fun complete => mappable complete.1⟩
    next => exact ⟨ok, by rw [at_]; exact pcOk⟩
  | mapExisting attempt inode actual =>
    rw [at_] at pcOk
    simp only [Opener.step, at_]
    split_ifs
    next => exact ⟨ok, trivial⟩
    next => exact ⟨ok, pcOk⟩
  | waitMagic attempt inode actual =>
    rw [at_] at pcOk
    obtain ⟨below, size, mappable⟩ := pcOk
    simp only [Opener.step, at_]
    split_ifs with published expired
    next => exact ⟨ok, below, size, published⟩
    next => exact ⟨ok, .torn opener fun complete => published complete.2⟩
    next => exact ⟨ok, by rw [at_]; exact ⟨below, size, mappable⟩⟩
  | validate attempt inode actual =>
    rw [at_] at pcOk
    obtain ⟨below, size, published⟩ := pcOk
    simp only [Opener.step, at_]
    split_ifs with valid
    next =>
      obtain ⟨sameVersion, geometry, declared⟩ := (headerValid_iff accepted _ _ _).mp valid
      exact ⟨ok, below, published, sameVersion, geometry, size.trans declared.symm⟩
    next => exact ⟨ok, trivial⟩
  | reclaimCheck attempt inode =>
    rw [at_] at pcOk
    simp only [Opener.step, at_]
    split_ifs with refused linked
    next => exact ⟨ok, trivial⟩
    next => exact ⟨ok, pcOk, .inl linked⟩
    next => exact ⟨ok, .retry opener attempt⟩
  | reclaimUnlink attempt inode =>
    rw [at_] at pcOk
    simp only [Opener.step, at_]
    split_ifs
    next => exact ⟨ok, trivial⟩
    next => exact ⟨ok.unlinkTorn accepted pcOk.1 pcOk.2, .retry opener attempt⟩
  | unlock result =>
    rw [at_] at pcOk
    simp only [Opener.step, at_]
    cases result with
    | none => exact ⟨ok, trivial⟩
    | some entry => exact ⟨ok, pcOk⟩

-- What one step of an opener may do to files that exist already.
structure FilesKept (world after : World) : Prop where
  path : ∀ inode, world.path = some inode → after.path = some inode ∨ (world.inodes inode).Torn
  inodes : ∀ inode, inode < world.next →
    after.inodes inode = world.inodes inode ∨ (world.inodes inode).header.magic ≠ magic

theorem FilesKept.same {world after : World} (path : after.path = world.path)
    (inodes : after.inodes = world.inodes) : FilesKept world after :=
  ⟨fun _ linked => .inl (path.trans linked), fun _ _ => .inl (congrFun inodes _)⟩

theorem FilesKept.setInode {world : World} {target : Nat} (unpublished : (world.inodes target).header.magic = 0)
    (value : Inode) : FilesKept world (world.setInode target value) := by
  refine ⟨fun _ linked => .inl linked, ?_⟩
  intro inode below
  by_cases same : inode = target
  next => exact .inr (by rw [same, unpublished]; exact magic_ne_zero)
  next => exact .inl (Function.update_of_ne same _ _)

theorem FilesKept.unlink {world : World} {target : Nat} (torn : (world.inodes target).Torn)
    (path : world.path = some target ∨ world.path = none) : FilesKept world { world with path := none } := by
  refine ⟨?_, fun _ _ => .inl rfl⟩
  intro inode linked
  rcases path with same | gone
  next => exact .inr (Option.some.inj (same.symm.trans linked) ▸ torn)
  next => exact absurd (gone.symm.trans linked) (by simp)

theorem step_filesKept {config : Config} {id : Nat} {world : World} {opener : Opener}
    (pcOk : PcOk config id world opener.pc) (holder : Option Nat) (fails expired : Bool) :
    FilesKept world (opener.step config id world holder fails expired).1 := by
  cases at_ : opener.pc with
  | cleanupUnlink | reclaimUnlink =>
    rw [at_] at pcOk
    simp only [Opener.step, at_]
    split_ifs
    next => exact .same rfl rfl
    next => exact .unlink pcOk.1 pcOk.2
  | attempt attempt =>
    simp only [Opener.step, at_]
    split_ifs with exhausted failed free
    next => exact .same rfl rfl
    next => exact .same rfl rfl
    next =>
      refine ⟨fun inode linked => absurd (free.symm.trans linked) (by simp), ?_⟩
      intro inode below
      exact .inl (Function.update_of_ne (Nat.ne_of_lt below) _ _)
    next => exact .same rfl rfl
  | truncate attempt target =>
    rw [at_] at pcOk
    have unpublished : (world.inodes target).header.magic = 0 := by rw [pcOk.2.2]; rfl
    simp only [Opener.step, at_]
    split
    next => exact .same rfl rfl
    next =>
      split_ifs
      next => exact .same rfl rfl
      next => exact .setInode unpublished _
  | init attempt target stored =>
    rw [at_] at pcOk
    simp only [Opener.step, at_]
    split
    next store next =>
      have unpublished : (world.inodes target).header.magic = 0 := by
        rw [pcOk.2.2]
        exact initialised_magic (List.getElem?_eq_some_iff.mp next).1
      exact .setInode unpublished _
    next => exact .same rfl rfl
  | createdCheck | attachedCheck =>
    simp only [Opener.step, at_, Opener.finalCheck]
    split_ifs <;> exact .same rfl rfl
  | openExisting =>
    simp only [Opener.step, at_]
    split_ifs
    next => exact .same rfl rfl
    next => split <;> exact .same rfl rfl
  | idle | returned | failed | unlock =>
    simp only [Opener.step, at_]
    exact .same rfl rfl
  | _ =>
    simp only [Opener.step, at_]
    split_ifs <;> exact .same rfl rfl

theorem step_successes (config : Config) (id : Nat) (world : World) (holder : Option Nat) (opener : Opener)
    (fails expired : Bool) :
    world.successes ⊆ (opener.step config id world holder fails expired).1.successes := by
  cases at_ : opener.pc with
  | createdCheck | attachedCheck =>
    simp only [Opener.step, at_, Opener.finalCheck]
    split_ifs <;> simp [World.succeed]
  | truncate | init =>
    simp only [Opener.step, at_]
    split
    all_goals first | exact List.Subset.refl _ | split_ifs <;> exact List.Subset.refl _
  | openExisting =>
    simp only [Opener.step, at_]
    split_ifs
    next => exact List.Subset.refl _
    next => split <;> exact List.Subset.refl _
  | idle | returned | failed | unlock => simp [Opener.step, at_]
  | _ =>
    simp only [Opener.step, at_]
    split_ifs <;> exact List.Subset.refl _

theorem step_unlocked {opener : Opener} (unlocked : opener.pc.locked = false) (config : Config) (id : Nat)
    (world : World) (holder : Option Nat) (fails expired : Bool) :
    (opener.step config id world holder fails expired).1 = world := by
  cases at_ : opener.pc with
  | idle | returned | failed => simp [Opener.step, at_]
  | tryLock =>
    simp only [Opener.step, at_]
    split_ifs <;> rfl
  | _ => simp [OpenerPc.locked, at_] at unlocked

theorem retry_locked (opener : Opener) (attempt : Nat) : (opener.retry attempt).pc.locked = true := by
  cases mode : opener.mode <;> simp [Opener.retry, mode, OpenerPc.locked]

theorem torn_locked (opener : Opener) (attempt inode : Nat) : (opener.torn attempt inode).pc.locked = true := by
  cases mode : opener.mode <;> simp [Opener.torn, mode, OpenerPc.locked]

theorem step_owned {config : Config} {openers : Nat → Opener} {holder : Option Nat}
    (owned : Owned (fun opener => opener.pc.locked) openers holder) (id : Nat) (world : World)
    (fails expired : Bool) :
    Owned (fun opener => opener.pc.locked)
      (Function.update openers id ((openers id).step config id world holder fails expired).2.2)
      ((openers id).step config id world holder fails expired).2.1 := by
  have stays {next : Opener} (locked : next.pc.locked = true) (before : (openers id).pc.locked = true) :
      Owned (fun opener => opener.pc.locked) (Function.update openers id next) holder :=
    owned.keep (locked.trans before.symm)
  cases at_ : (openers id).pc with
  | idle | returned | failed =>
    simp only [Opener.step, at_]
    exact owned.keep rfl
  | tryLock =>
    simp only [Opener.step, at_]
    split_ifs with failed free
    next => exact owned.keep (by simp [at_, OpenerPc.locked])
    next =>
      subst free
      exact owned.acquire (by cases (openers id).mode <;> rfl)
    next => exact owned.keep (by simp [at_, OpenerPc.locked])
    next => exact owned.keep rfl
  | unlock result =>
    simp only [Opener.step, at_]
    exact owned.drop (by cases result <;> rfl)
  | createdCheck | attachedCheck =>
    have locked : (openers id).pc.locked = true := by rw [at_]; rfl
    simp only [Opener.step, at_, Opener.finalCheck]
    split_ifs
    all_goals first | exact stays rfl locked | exact stays (retry_locked _ _) locked
  | truncate | init =>
    have locked : (openers id).pc.locked = true := by rw [at_]; rfl
    simp only [Opener.step, at_]
    split
    all_goals first | exact stays rfl locked | split_ifs <;> exact stays rfl locked
  | openExisting =>
    have locked : (openers id).pc.locked = true := by rw [at_]; rfl
    simp only [Opener.step, at_]
    split_ifs
    next => exact stays rfl locked
    next =>
      split
      next => exact stays (retry_locked _ _) locked
      next => exact stays rfl locked
  | _ =>
    have locked : (openers id).pc.locked = true := by rw [at_]; rfl
    simp only [Opener.step, at_]
    split_ifs
    all_goals
      first
      | exact stays rfl locked
      | exact stays locked locked
      | exact stays (retry_locked _ _) locked
      | exact stays (torn_locked _ _ _) locked

-- An opener outside the lock relies on nothing that a step under the lock can take away.
theorem PcOk.unlocked {config : Config} {id : Nat} {world after : World} {pc : OpenerPc}
    (ok : PcOk config id world pc) (unlocked : pc.locked = false) (grows : world.successes ⊆ after.successes) :
    PcOk config id after pc := by
  cases pc with
  | returned entry => exact grows ok
  | idle | tryLock | failed => trivial
  | _ => simp [OpenerPc.locked] at unlocked

theorem WorldOk.unlinkExternally {config : Config} {world : World} (ok : WorldOk config world) :
    WorldOk config { world with path := none, unlinks := world.unlinks + 1 } := by
  refine ⟨by simp, ?_, ok.agree⟩
  intro entry inside
  obtain ⟨complete, below, old, -⟩ := ok.successes entry inside
  refine ⟨complete, below, Nat.le_succ_of_le old, ?_⟩
  intro same
  dsimp only at same
  omega

theorem PcOk.unlinkExternally {config : Config} {id : Nat} {world : World} {pc : OpenerPc}
    (ok : PcOk config id world pc) :
    PcOk config id { world with path := none, unlinks := world.unlinks + 1 } pc := by
  cases pc with
  | cleanupUnlink | reclaimUnlink => exact ⟨ok.1, .inr rfl⟩
  | unlock result => cases result <;> exact ok
  | _ => exact ok

theorem WorldOk.traffic {config : Config} {world : World} (ok : WorldOk config world) {target : Nat}
    {header : Header} (sameMagic : header.magic = (world.inodes target).header.magic)
    (sameVersion : header.version = (world.inodes target).header.version)
    (sameGeometry : header.geometry = (world.inodes target).header.geometry) :
    WorldOk config (world.setInode target { world.inodes target with header := header }) := by
  refine ⟨ok.below, ?_, ok.agree⟩
  intro entry inside
  obtain ⟨complete, rest⟩ := ok.successes entry inside
  refine ⟨?_, rest⟩
  by_cases same : entry.1 = target
  next =>
    rw [same] at complete ⊢
    simp only [World.setInode, Function.update_self]
    exact ⟨sameMagic.trans complete.magic, sameVersion.trans complete.version, sameGeometry.trans complete.geometry,
      complete.size⟩
  next => simpa [World.setInode, same] using complete

-- A mapping in use keeps its own file complete, and no creator is still at work on that one.
theorem PcOk.traffic {config : Config} {id : Nat} {world : World} {pc : OpenerPc} (ok : PcOk config id world pc)
    {target : Nat} (returned : ¬Unreturned world target) {header : Header}
    (sameMagic : header.magic = (world.inodes target).header.magic)
    (sameVersion : header.version = (world.inodes target).header.version)
    (sameGeometry : header.geometry = (world.inodes target).header.geometry) :
    PcOk config id (world.setInode target { world.inodes target with header := header }) pc := by
  have size (inode : Nat) : ((world.setInode target { world.inodes target with header := header }).inodes inode).size =
      (world.inodes inode).size := by
    by_cases same : inode = target <;> simp [World.setInode, same]
  have published (inode : Nat) :
      ((world.setInode target { world.inodes target with header := header }).inodes inode).header.magic =
        (world.inodes inode).header.magic := by
    by_cases same : inode = target <;> simp [World.setInode, same, sameMagic]
  have complete {inode : Nat} (before : (world.inodes inode).Complete config.expected) :
      ((world.setInode target { world.inodes target with header := header }).inodes inode).Complete config.expected := by
    refine ⟨(published inode).trans before.magic, ?_, ?_, (size inode).trans before.size⟩
    next =>
      by_cases same : inode = target
      next => simpa [World.setInode, same] using sameVersion.trans (same ▸ before.version)
      next => simpa [World.setInode, same] using before.version
    next =>
      by_cases same : inode = target
      next => simpa [World.setInode, same] using sameGeometry.trans (same ▸ before.geometry)
      next => simpa [World.setInode, same] using before.geometry
  have torn {inode : Nat} (before : (world.inodes inode).Torn) :
      ((world.setInode target { world.inodes target with header := header }).inodes inode).Torn := by
    rw [Inode.Torn, size, published]
    exact before
  have other {inode : Nat} (fresh : Unreturned world inode) :
      (world.setInode target { world.inodes target with header := header }).inodes inode = world.inodes inode := by
    have different : inode ≠ target := by
      intro same
      rw [same] at fresh
      exact returned fresh
    exact Function.update_of_ne different _ _
  cases pc with
  | truncate | mapCreated | init => exact ⟨ok.1, ok.2.1, (other ok.2.1).trans ok.2.2⟩
  | createdCheck | attachedCheck => exact ⟨ok.1, complete ok.2⟩
  | cleanupCheck | reclaimCheck => exact torn ok
  | cleanupUnlink | reclaimUnlink => exact ⟨torn ok.1, ok.2⟩
  | mapExisting | waitMagic => exact ⟨ok.1, (size _).trans ok.2.1, ok.2.2⟩
  | validate => exact ⟨ok.1, (size _).trans ok.2.1, (published _).trans ok.2.2⟩
  | unlock result => cases result <;> exact ok
  | _ => exact ok

def OpenerPc.started : OpenerPc → Bool
  | .idle | .failed => false
  | _ => true

structure Invariant (config : Config) (state : State) : Prop where
  started : ∀ id, (state.openers id).pc.started = true → config.expected.Accepted
  owned : Owned (fun opener => opener.pc.locked) state.openers state.holder
  world : WorldOk config state.world
  pcs : ∀ id, PcOk config id state.world (state.openers id).pc

theorem Invariant.openerStep {config : Config} {state : State} (invariant : Invariant config state) (id : Nat)
    (fails expired : Bool) {next : State} (move : step config state (.opener id fails expired) = some next) :
    Invariant config next := by
  simp only [step, Option.some.injEq] at move
  subst move
  have idle (rest : (state.openers id).pc.started = false) :
      (state.openers id).step config id state.world state.holder fails expired =
        (state.world, state.holder, state.openers id) := by
    cases at_ : (state.openers id).pc <;> simp [OpenerPc.started, at_] at rest <;> simp [Opener.step, at_]
  have unchanged : Function.update state.openers id (state.openers id) = state.openers := Function.update_eq_self _ _
  cases running : (state.openers id).pc.started with
  | false =>
    rw [idle running, unchanged]
    exact invariant
  | true =>
    have accepted := invariant.started id running
    have moved := step_ok accepted invariant.world (invariant.pcs id) state.holder fails expired
    refine ⟨fun _ _ => accepted, step_owned invariant.owned id state.world fails expired, moved.1, ?_⟩
    intro other
    by_cases self : other = id
    next =>
      subst self
      simpa using moved.2
    next =>
      simp only [Function.update_of_ne self]
      cases locked : (state.openers id).pc.locked with
      | false =>
        rw [step_unlocked locked]
        exact invariant.pcs other
      | true =>
        have unlocked : (state.openers other).pc.locked = false := by
          by_contra held
          exact self (invariant.owned.unique (by simpa using held) locked)
        exact (invariant.pcs other).unlocked unlocked (step_successes _ _ _ _ _ _ _)

theorem step_invariant {config : Config} {state next : State} {action : Action} (invariant : Invariant config state)
    (move : step config state action = some next) : Invariant config next := by
  cases action with
  | opener id fails expired => exact invariant.openerStep id fails expired move
  | start id mode =>
    simp only [step] at move
    split_ifs at move with busy valid
    all_goals
      obtain rfl := Option.some.inj move
      have unlocked : (state.openers id).pc.locked = false := by simpa using (not_or.mp busy).1
      refine ⟨?_, invariant.owned.keep unlocked.symm, invariant.world, ?_⟩
    next =>
      intro other _
      exact Geometry.validateSelf_ok.mp valid
    next =>
      intro other
      by_cases self : other = id
      next => simp [State.setOpener, self, PcOk]
      next => simpa [State.setOpener, self] using invariant.pcs other
    next =>
      intro other
      by_cases self : other = id
      next => simp [State.setOpener, self, OpenerPc.started]
      next => simpa [State.setOpener, self] using invariant.started other
    next =>
      intro other
      by_cases self : other = id
      next => simp [State.setOpener, self, PcOk]
      next => simpa [State.setOpener, self] using invariant.pcs other
  | crash id =>
    simp only [step, Option.some.injEq] at move
    subst move
    refine ⟨?_, invariant.owned.drop rfl, invariant.world, ?_⟩
    next =>
      intro other
      by_cases self : other = id
      next => simp [State.setOpener, self, OpenerPc.started]
      next => simpa [State.setOpener, self] using invariant.started other
    next =>
      intro other
      by_cases self : other = id
      next => simp [State.setOpener, self, PcOk]
      next => simpa [State.setOpener, self] using invariant.pcs other
  | traffic id header =>
    have pcOk := invariant.pcs id
    simp only [step] at move
    split at move
    next inode unlinks at_ =>
      rw [at_] at pcOk
      split_ifs at move with same
      obtain rfl := Option.some.inj move
      have returned : ¬Unreturned state.world inode := fun fresh => fresh _ pcOk rfl
      exact ⟨invariant.started, invariant.owned, invariant.world.traffic same.1 same.2.1 same.2.2,
        fun other => (invariant.pcs other).traffic returned same.1 same.2.1 same.2.2⟩
    next => simp at move
  | unlinkExternally =>
    simp only [step, Option.some.injEq] at move
    subst move
    exact ⟨invariant.started, invariant.owned, invariant.world.unlinkExternally,
      fun id => (invariant.pcs id).unlinkExternally⟩

theorem reachable_invariant {config : Config} {state : State} (reached : Reachable (system config) state) :
    Invariant config state := by
  induction reached with
  | initial start =>
    refine ⟨?_, ?_, ⟨start.below, ?_, ?_⟩, ?_⟩
    next => simp [start.openers, OpenerPc.started]
    next => simp [Owned, start.openers, start.holder, OpenerPc.locked]
    next => simp [start.successes]
    next => simp [start.successes]
    next => simp [start.openers, PcOk]
  | step _ move ih => exact step_invariant ih move

-- The promises of the open protocol, read off one state and the opener steps it allows.
structure OpenContract (config : Config) (state : State) : Prop where
  returned : ∀ id inode unlinks, (state.openers id).pc = .returned (inode, unlinks) →
    (inode, unlinks) ∈ state.world.successes ∧ (state.world.inodes inode).Complete config.expected ∧
      (unlinks = state.world.unlinks → state.world.path = some inode)
  shared : ∀ left ∈ state.world.successes, ∀ right ∈ state.world.successes, left.2 = right.2 → left.1 = right.1
  linked : ∀ id fails expired next, step config state (.opener id fails expired) = some next →
    ∀ inode, state.world.path = some inode → (state.world.inodes inode).header.magic = magic →
      headerBytes ≤ (state.world.inodes inode).size ∨ (state.world.inodes inode).Complete config.expected →
      next.world.path = some inode
  untouched : ∀ id fails expired next, step config state (.opener id fails expired) = some next →
    ∀ inode, inode < state.world.next → (state.world.inodes inode).header.magic = magic →
      next.world.inodes inode = state.world.inodes inode

theorem openers_share_one_complete_inode {config : Config} {state : State}
    (reached : Reachable (system config) state) : OpenContract config state := by
  have invariant := reachable_invariant reached
  refine ⟨?_, invariant.world.agree, ?_, ?_⟩
  next =>
    intro id inode unlinks at_
    have entry := invariant.pcs id
    rw [at_] at entry
    obtain ⟨complete, -, -, current⟩ := invariant.world.successes _ entry
    exact ⟨entry, complete, current⟩
  next =>
    intro id fails expired next move inode linked published protected_
    simp only [step, Option.some.injEq] at move
    subst move
    rcases (step_filesKept (invariant.pcs id) state.holder fails expired).path inode linked with kept | torn
    next => exact kept
    next =>
      rcases protected_ with mappable | complete
      next => exact absurd ⟨mappable, published⟩ torn
      next =>
        cases running : (state.openers id).pc.started with
        | true => exact absurd torn (complete.not_torn (invariant.started id running))
        | false =>
          have unlocked : (state.openers id).pc.locked = false := by
            cases at_ : (state.openers id).pc <;> simp_all [OpenerPc.started, OpenerPc.locked]
          rw [step_unlocked unlocked]
          exact linked
  next =>
    intro id fails expired next move inode below published
    simp only [step, Option.some.injEq] at move
    subst move
    rcases (step_filesKept (invariant.pcs id) state.holder fails expired).inodes inode below with same | unpublished
    next => exact same
    next => exact absurd published unpublished

def oneCOneRust : Config where
  expected := protoGeometry
  ownedPath := true
  language := fun id => if id = 0 then .c else .rust

def unopened (path : Option Nat) (file : Inode) : State where
  world := { path := path, inodes := fun _ => file, next := 1, unlinks := 0, successes := [] }
  holder := none
  openers := fun _ => { mode := .createOrAttach, pc := .idle }

theorem unopened_initial {path : Option Nat} (below : ∀ inode, path = some inode → inode < 1) (file : Inode) :
    Initial (unopened path file) :=
  ⟨below, rfl, rfl, rfl, fun _ => rfl⟩

-- The C opener creates the file, the Rust opener attaches to it.
theorem openers_share_one_complete_inode_at_two :
    ∃ state, OpenContract oneCOneRust state ∧ (state.openers 0).pc = .returned (1, 0) ∧
      (state.openers 1).pc = .returned (1, 0) := by
  let first := unopened none { size := 0, header := .zero }
  let actions : List Action :=
    [[.start 0 .createOrAttach], List.replicate 16 (.opener 0 false false), [.start 1 .createOrAttach],
      List.replicate 10 (.opener 1 false false)].flatten
  have start : Initial first := unopened_initial (by simp) _
  have runs : (execute (step oneCOneRust) first actions).isSome = true := by decide
  obtain ⟨state, ran⟩ := Option.isSome_iff_exists.mp runs
  have facts : ∀ state ∈ execute (step oneCOneRust) first actions,
      (state.openers 0).pc = .returned (1, 0) ∧ (state.openers 1).pc = .returned (1, 0) := by
    decide
  exact ⟨state, openers_share_one_complete_inode (reachable_of_execute start ran), facts state ran⟩

-- Sixty-four bytes of a ring with another geometry: its magic is there, the mapped header is not.
def shortForeign : Inode where
  size := 64
  header := { writeConfig .zero { protoGeometry with nSlots := 4 } with magic := magic }

theorem short_mismatching_file_is_unlinked :
    ∃ state next, Reachable (system oneCOneRust) state ∧
      step oneCOneRust state (.opener 0 false false) = some next ∧ state.world.path = some 0 ∧
      (state.world.inodes 0).header.magic = magic ∧
      (state.world.inodes 0).header.geometry ≠ oneCOneRust.expected ∧ next.world.path = none := by
  let first := unopened (some 0) shortForeign
  let actions : List Action :=
    [[.start 0 .createOrAttach], List.replicate 4 (.opener 0 false false),
      [.opener 0 false true, .opener 0 false false]].flatten
  have start : Initial first := unopened_initial (by simp) _
  have runs : (execute (step oneCOneRust) first actions).isSome = true := by decide
  obtain ⟨state, ran⟩ := Option.isSome_iff_exists.mp runs
  have facts : ∀ state ∈ execute (step oneCOneRust) first actions,
      (step oneCOneRust state (.opener 0 false false)).isSome = true ∧ state.world.path = some 0 ∧
        (state.world.inodes 0).header.magic = magic ∧
        (state.world.inodes 0).header.geometry ≠ oneCOneRust.expected ∧
        ∀ next ∈ step oneCOneRust state (.opener 0 false false), next.world.path = none := by
    decide
  obtain ⟨steps, linked, published, foreign, gone⟩ := facts state ran
  obtain ⟨next, move⟩ := Option.isSome_iff_exists.mp steps
  exact ⟨state, next, reachable_of_execute start ran, move, linked, published, foreign, gone next move⟩

end Jts.Ring.OpenProtocol
