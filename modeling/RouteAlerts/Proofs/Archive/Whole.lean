import Mathlib.Logic.Relation
import RouteAlerts.Archive.Steps
import RouteAlerts.Proofs.Calendar.DayNumber
import RouteAlerts.Proofs.Text.Blank

/-!
Whole documents. However the steps of any number of calls come between each other, and wherever the
process stops, a document on the disk is one that was offered, complete and under the digest of its
bytes (`documents_whole`).

What carries this is an invariant of sessions (`Session.IsSound`): a call that writes has written
what its document starts with, into a file that is nobody else's. Only a whole temporary file is
ever renamed, and no step of one call touches the temporary file of another
(`Step.read?_temporary`).

The archive that is seen from outside, where a call is one step, does what a call does that nothing
comes between (`exists_run_store`, `exists_run_discard`).
-/

namespace RouteAlerts

open Text

/-! ### Files -/

namespace Disk

variable {d : Disk} {name other old new : DiskName} {content chunk : Bytes}

theorem read?_remove_self (d : Disk) (name : DiskName) : (d.remove name).read? name = none :=
  d.read?_set_self name none

theorem read?_remove_of_ne (h : other ≠ name) : (d.remove name).read? other = d.read? other :=
  d.read?_set_of_ne none h

theorem read?_append_self (there : d.read? name = some content) :
    (d.append name chunk).read? name = some (content ++ chunk) := by
  rw [append, read?_set_self, there, Option.map_some]

theorem read?_append_of_ne (h : other ≠ name) : (d.append name chunk).read? other = d.read? other :=
  d.read?_set_of_ne _ h

theorem read?_rename_self (there : d.read? old = some content) :
    (d.rename old new).read? new = some content := by
  rw [rename, there, read?_set_self]

theorem read?_rename_of_ne (notOld : other ≠ old) (notNew : other ≠ new) :
    (d.rename old new).read? other = d.read? other := by
  unfold rename
  split
  · rw [read?_set_of_ne _ _ notNew, read?_remove_of_ne notOld]
  · rfl

/-- Every document on the disk was offered, and lies where it was offered to lie. -/
def IsWhole (d : Disk) (offered : List Offer) : Prop :=
  ∀ path content, d.read? (.document path) = some content →
    ∃ o ∈ offered, o.path = path ∧ o.document = content

theorem IsWhole.mono {offered more : List Offer} (h : d.IsWhole offered) (grown : offered ⊆ more) :
    d.IsWhole more := by
  intro path content there
  obtain ⟨o, ho, same⟩ := h path content there
  exact ⟨o, grown ho, same⟩

end Disk

/-! ### One call -/

namespace Activity

variable {d d' : Disk} {issued issued' : Nat} {a a' b : Activity} {offered more : List Offer}

/-- The number of the temporary file that a call has not let go of. -/
def number? : Activity → Option Nat
  | .storing _ (.writing number _) => some number
  | .storing _ (.undoing number _) => some number
  | _ => none

/-- The invariant of a call: its document was offered, and what it has written of it so far stands
in its temporary file. -/
def IsSound (d : Disk) (offered : List Offer) : Activity → Prop
  | .storing o (.writing number written) =>
    o ∈ offered ∧ d.read? (o.temporary number) = some (o.document.take written)
  | .storing o _ => o ∈ offered
  | .discarding _ => True
  | .discarded => True

theorem IsSound.isOffered {o : Offer} {stage : StoringStage}
    (h : (Activity.storing o stage).IsSound d offered) : o ∈ offered := by
  cases stage with
  | writing number written => exact h.1
  | _ => exact h

theorem IsSound.mono (h : a.IsSound d offered) (grown : offered ⊆ more) : a.IsSound d more := by
  cases a with
  | storing o stage =>
    cases stage with
    | writing number written => exact ⟨grown h.1, h.2⟩
    | _ => exact grown h
  | discarding path => trivial
  | discarded => trivial

/-- A call keeps its own invariant. -/
theorem Step.isSound (step : Step d issued a d' issued' a') (sound : a.IsSound d offered) :
    a'.IsSound d' offered := by
  cases step with
  | makeDirectory => exact sound
  | findDocument there => exact sound
  | findNothing nothing => exact sound
  | createTemporary => exact ⟨sound, d.read?_set_self _ _⟩
  | @write o number written chunk rest next =>
    refine ⟨sound.1, ?_⟩
    have taken : o.document.take (written + chunk.length) = o.document.take written ++ chunk := by
      rw [List.take_add, next, List.take_left]
    rw [taken]
    exact Disk.read?_append_self sound.2
  | rename => exact sound.1
  | refuseRename answer => exact sound.1
  | removeTemporary => exact sound
  | fail => exact sound.isOffered
  | discard => trivial

/-- A call leaves whole documents only. It is the rename that puts one in place, when all of it has
been written. -/
theorem Step.isWhole (step : Step d issued a d' issued' a') (sound : a.IsSound d offered)
    (whole : d.IsWhole offered) : d'.IsWhole offered := by
  intro path content there
  cases step with
  | createTemporary =>
    rw [Disk.read?_set_of_ne _ _ (by simp [Offer.temporary])] at there
    exact whole path content there
  | write chunk rest next =>
    rw [Disk.read?_append_of_ne (by simp [Offer.temporary])] at there
    exact whole path content there
  | @rename o number =>
    obtain ⟨known, written⟩ := sound
    rw [List.take_length] at written
    -- By now the temporary file holds all bytes of the offer, and its path comes from these bytes.
    by_cases own : path = o.path
    · subst own
      rw [Disk.read?_rename_self written, Option.some_inj] at there
      exact ⟨o, known, rfl, there⟩
    · rw [Disk.read?_rename_of_ne (by simp [Offer.temporary]) (by simpa using own)] at there
      exact whole path content there
  | removeTemporary =>
    rw [Disk.read?_remove_of_ne (by simp [Offer.temporary])] at there
    exact whole path content there
  | @discard gone =>
    by_cases own : path = gone
    · rw [own, Disk.read?_remove_self] at there
      cases there
    · rw [Disk.read?_remove_of_ne (by simpa using own)] at there
      exact whole path content there
  | _ => exact whole path content there

/-- A call touches no temporary file but its own. -/
theorem Step.read?_temporary (step : Step d issued a d' issued' a') {number : Nat}
    (foreign : a.number? ≠ some number) (old : number < issued) (day source : List Char) :
    d'.read? (.temporary day source number) = d.read? (.temporary day source number) := by
  cases step with
  -- A new file has a number that was never issued, and the other steps know their own number.
  | createTemporary =>
    refine Disk.read?_set_of_ne _ _ ?_
    simp only [Offer.temporary, ne_eq, DiskName.temporary.injEq]
    omega
  | write chunk rest next =>
    apply Disk.read?_append_of_ne
    rintro same
    cases same
    exact foreign rfl
  | rename =>
    apply Disk.read?_rename_of_ne
    · rintro same
      cases same
      exact foreign rfl
    · simp
  | removeTemporary =>
    apply Disk.read?_remove_of_ne
    rintro same
    cases same
    exact foreign rfl
  | discard => exact Disk.read?_remove_of_ne (by simp)
  | _ => rfl

/-- A call keeps its temporary file, lets go of it, or makes one under a number that was never used.
-/
theorem Step.number?_cases (step : Step d issued a d' issued' a') :
    issued ≤ issued' ∧ ∀ number, a'.number? = some number →
      a.number? = some number ∨ issued ≤ number ∧ number < issued' := by
  cases step with
  | createTemporary =>
    refine ⟨Nat.le_succ _, ?_⟩
    rintro number made
    cases made
    exact .inr ⟨Nat.le_refl _, Nat.lt_succ_self _⟩
  | write chunk rest next => exact ⟨Nat.le_refl _, fun number same => .inl same⟩
  | refuseRename answer => exact ⟨Nat.le_refl _, fun number same => .inl same⟩
  | _ => exact ⟨Nat.le_refl _, fun number none => by cases none⟩

/-- Two calls that do not work on one temporary file. -/
def Apart (a b : Activity) : Prop := ∀ number, a.number? = some number → b.number? ≠ some number

theorem Apart.symm (h : Apart a b) : Apart b a :=
  fun number mine yours => h number yours mine

/-- What one call does keeps the invariant of another. -/
theorem Step.isSound_of_apart (step : Step d issued a d' issued' a') (sound : b.IsSound d offered)
    (old : ∀ number, b.number? = some number → number < issued) (apart : Apart a b) :
    b.IsSound d' offered := by
  cases b with
  | storing o stage =>
    cases stage with
    | writing number written =>
      refine ⟨sound.1, ?_⟩
      rw [Offer.temporary, step.read?_temporary (fun own => apart number own rfl) (old number rfl)]
      exact sound.2
    | _ => exact sound
  | discarding path => trivial
  | discarded => trivial

/-- A call that makes a temporary file stays apart from those that have one. -/
theorem Step.apart (step : Step d issued a d' issued' a')
    (old : ∀ number, b.number? = some number → number < issued) (apart : Apart a b) :
    Apart a' b := by
  intro number mine yours
  rcases step.number?_cases.2 number mine with before | ⟨new, -⟩
  · exact apart number before yours
  · exact absurd (old number yours) (Nat.not_lt.mpr new)

end Activity

/-! ### All calls -/

namespace Session

variable {s s' : Session}

structure IsSound (s : Session) : Prop where
  whole : s.disk.IsWhole s.offered
  calls : ∀ a ∈ s.activities, a.IsSound s.disk s.offered
  issued : ∀ a ∈ s.activities, ∀ number, a.number? = some number → number < s.issued
  apart : s.activities.Pairwise Activity.Apart

theorem isSound_start : start.IsSound where
  whole := by
    intro path content there
    cases there
  calls := by simp [start]
  issued := by simp [start]
  apart := List.Pairwise.nil

/-- A call that has just begun works on no file. -/
theorem IsSound.begin (h : s.IsSound) {a : Activity} {more : List Offer}
    (grown : s.offered ⊆ more) (sound : a.IsSound s.disk more) (idle : a.number? = none) :
    IsSound { s with offered := more, activities := s.activities ++ [a] } where
  whole := h.whole.mono grown
  calls := by
    intro b hb
    rcases List.mem_append.mp hb with old | new
    · exact (h.calls b old).mono grown
    · rwa [List.mem_singleton.mp new]
  issued := by
    intro b hb number own
    rcases List.mem_append.mp hb with old | new
    · exact h.issued b old number own
    · rw [List.mem_singleton.mp new, idle] at own
      cases own
  apart := by
    refine List.pairwise_append.mpr ⟨h.apart, List.pairwise_singleton _ _, ?_⟩
    intro b _ c hc number _ own
    rw [List.mem_singleton.mp hc, idle] at own
    cases own

/-- A step of one call keeps the invariant of all. -/
theorem IsSound.advance (h : s.IsSound) {before after : List Activity} {a a' : Activity} {d : Disk}
    {issued : Nat} (found : s.activities = before ++ a :: after)
    (step : Activity.Step s.disk s.issued a d issued a') :
    IsSound { s with disk := d, issued := issued, activities := before ++ a' :: after } := by
  obtain ⟨whole, calls, old, apart⟩ := h
  rw [found] at calls old apart
  obtain ⟨apartBefore, apartFrom, across⟩ := List.pairwise_append.mp apart
  obtain ⟨apartAfter, apartRest⟩ := List.pairwise_cons.mp apartFrom
  obtain ⟨later, numbers⟩ := step.number?_cases
  have own : a ∈ before ++ a :: after := List.mem_append_right _ List.mem_cons_self
  -- The other calls with what is known about each of them.
  have others : ∀ b, b ∈ before ∨ b ∈ after → b ∈ before ++ a :: after ∧ Activity.Apart a b := by
    rintro b (inBefore | inAfter)
    · exact ⟨List.mem_append_left _ inBefore, (across b inBefore a List.mem_cons_self).symm⟩
    · exact ⟨List.mem_append_right _ (List.mem_cons_of_mem _ inAfter), apartAfter b inAfter⟩
  have split : ∀ b, b ∈ before ++ a' :: after → b = a' ∨ b ∈ before ∨ b ∈ after := by
    intro b hb
    rcases List.mem_append.mp hb with inBefore | inRest
    · exact .inr (.inl inBefore)
    · exact (List.mem_cons.mp inRest).imp_right .inr
  constructor
  · exact step.isWhole (calls a own) whole
  · intro b hb
    rcases split b hb with rfl | other
    · exact step.isSound (calls a own)
    · obtain ⟨member, apartB⟩ := others b other
      exact step.isSound_of_apart (calls b member) (old b member) apartB
  · intro b hb number mine
    rcases split b hb with rfl | other
    · rcases numbers number mine with kept | ⟨-, made⟩
      · exact Nat.lt_of_lt_of_le (old a own number kept) later
      · exact made
    · exact Nat.lt_of_lt_of_le (old b (others b other).1 number mine) later
  · have apartNow : ∀ b, b ∈ before ∨ b ∈ after → Activity.Apart a' b := by
      intro b other
      obtain ⟨member, apartB⟩ := others b other
      exact step.apart (old b member) apartB
    refine List.pairwise_append.mpr ⟨apartBefore, List.pairwise_cons.mpr ⟨?_, apartRest⟩, ?_⟩
    · exact fun b hb => apartNow b (.inr hb)
    · intro b hb c hc
      rcases List.mem_cons.mp hc with rfl | inAfter
      · exact (apartNow b (.inl hb)).symm
      · exact across b hb c (List.mem_cons_of_mem _ inAfter)

theorem IsSound.step (h : s.IsSound) (next : Step s s') : s'.IsSound := by
  cases next with
  | offer o => exact h.begin (List.subset_cons_self _ _) List.mem_cons_self rfl
  | discard path => exact h.begin (List.Subset.refl _) trivial rfl
  | advance found step => exact h.advance found step
  | stop => exact ⟨h.whole, by simp, by simp, List.Pairwise.nil⟩

theorem isSound_of_reachable (reachable : s.Reachable) : s.IsSound := by
  induction reachable with
  | start => exact isSound_start
  | step _ next ih => exact ih.step next

end Session

/-! ### Digests -/

namespace Sha256

theorem length_digest (document : Bytes) : (digest document).length = 32 := by
  have four : ∀ n, (bigEndian 4 n).length = 4 := by simp [bigEndian]
  simp [digest, Words.toList, four]

theorem length_hex (document : Bytes) : (hex document).length = 64 := by
  have two : ∀ byte, (hexByte byte).length = 2 := fun _ => rfl
  rw [hex, List.length_flatMap]
  simp only [two, List.map_const', List.sum_replicate_nat, length_digest]

theorem mem_hex {document : Bytes} {c : Char} (h : c ∈ hex document) :
    c ∈ "0123456789abcdef".toList := by
  have digits : ∀ n < 16, Nat.digitChar n ∈ "0123456789abcdef".toList := by decide
  obtain ⟨byte, -, inByte⟩ := List.mem_flatMap.mp h
  have bound := byte.toNat_lt
  simp only [hexByte, List.mem_cons, List.not_mem_nil, or_false] at inByte
  rcases inByte with rfl | rfl
  · exact digits _ (by omega)
  · exact digits _ (by omega)

theorem dot_notMem_hex (document : Bytes) : '.' ∉ hex document :=
  fun dot => absurd (mem_hex dot) (by decide)

end Sha256

/-- What stands before the only point of a text, or the first of its points. -/
theorem takeWhile_dot {s rest : List Char} (clear : '.' ∉ s) :
    (s ++ '.' :: rest).takeWhile (· != '.') = s := by
  apply takeWhile_append_stop
  · intro c hc
    simpa using ne_of_mem_of_not_mem hc clear
  · simp

namespace Session

/-- In every session, after any number of calls and between any two of their steps, also when the
process has stopped, each document on the disk is a complete one that was offered under its path.
The name of its file is the digest of its bytes, a point and an extension; so whatever stands before
the point is that digest. -/
theorem documents_whole {s : Session} (reachable : s.Reachable) {path : ArchivePath}
    {content : Bytes} (there : s.disk.read? (.document path) = some content) :
    (∃ o ∈ s.offered, o.path = path ∧ o.document = content) ∧
      (∃ extension, path.fileName = Sha256.hex content ++ '.' :: extension) ∧
      ∀ digest extension, '.' ∉ digest → path.fileName = digest ++ '.' :: extension →
        Sha256.hex content = digest := by
  obtain ⟨o, offered, rfl, rfl⟩ := (isSound_of_reachable reachable).whole path content there
  refine ⟨⟨o, offered, rfl, rfl⟩, ⟨_, rfl⟩, ?_⟩
  intro digest extension noDot name
  calc Sha256.hex o.document
    _ = o.path.fileName.takeWhile (· != '.') :=
      (takeWhile_dot (Sha256.dot_notMem_hex o.document)).symm
    _ = digest := by rw [name, takeWhile_dot noDot]

theorem isTimeOfDay_sampleOffer : IsTimeOfDay 9 0 0 0 := by decide

def sampleOffer : Offer where
  fetchedAt := ⟨Date.sample, ⟨9, 0, 0, 0, isTimeOfDay_sampleOffer⟩⟩
  source := "smpa".toList
  name := "집회.PDF".toList
  document := [0x25, 0x50, 0x44, 0x46]

/-- Two calls store one bulletin, and neither finds it. The first has put it in place and the second
has written half of it when the process stops. The bulletin lies complete under its digest, the half
of it under a name that is nobody's path. -/
theorem documents_whole_sample :
    ∃ s : Session, s.Reachable ∧ s.activities = [] ∧
      s.disk.read? (.document sampleOffer.path) = some sampleOffer.document ∧
      s.disk.read? (sampleOffer.temporary 1) = some (sampleOffer.document.take 2) ∧
      ∀ extension, sampleOffer.path.fileName =
          "315d429b7714cedb6ad04ac31240145257692630457f3c88253c5beceac76027".toList ++
            '.' :: extension →
        Sha256.hex sampleOffer.document =
          "315d429b7714cedb6ad04ac31240145257692630457f3c88253c5beceac76027".toList := by
  let o := sampleOffer
  -- Either of the two calls may take the next step.
  have first : ∀ {d d' : Disk} {n n' : Nat} {a a' b : Activity}, Reachable ⟨d, n, [o, o], [a, b]⟩ →
      Activity.Step d n a d' n' a' → Reachable ⟨d', n', [o, o], [a', b]⟩ :=
    fun {_ _ _ _ _ _ b} reached step => reached.step (@Step.advance _ [] [b] _ _ _ _ rfl step)
  have second : ∀ {d d' : Disk} {n n' : Nat} {a b b' : Activity}, Reachable ⟨d, n, [o, o], [a, b]⟩ →
      Activity.Step d n b d' n' b' → Reachable ⟨d', n', [o, o], [a, b']⟩ :=
    fun {_ _ _ _ a _ _} reached step => reached.step (@Step.advance _ [a] [] _ _ _ _ rfl step)
  let created := (Disk.empty.set (o.temporary 0) (some [])).set (o.temporary 1) (some [])
  let written := (created.append (o.temporary 0) o.document).append (o.temporary 1)
    (o.document.take 2)
  have begun : Reachable ⟨.empty, 0, [o, o], [.storing o .begun, .storing o .begun]⟩ :=
    (Reachable.start.step (.offer o)).step (.offer o)
  have looked : Reachable ⟨.empty, 0, [o, o],
      [.storing o .foundNothing, .storing o .foundNothing]⟩ :=
    second (first (second (first begun .makeDirectory) .makeDirectory) (.findNothing rfl))
      (.findNothing rfl)
  have made : Reachable ⟨created, 2, [o, o],
      [.storing o (.writing 0 0), .storing o (.writing 1 0)]⟩ :=
    second (first looked .createTemporary) .createTemporary
  have half : Reachable ⟨written, 2, [o, o],
      [.storing o (.writing 0 o.document.length), .storing o (.writing 1 2)]⟩ :=
    second (first made (.write o.document [] rfl))
      (.write (o.document.take 2) (o.document.drop 2) rfl)
  have stopped := (first half .rename).step .stop
  have whole : written.read? (o.temporary 0) = some o.document := by
    rw [Disk.read?_append_of_ne (by simp [Offer.temporary])]
    refine @Disk.read?_append_self _ _ [] _ ?_
    rw [Disk.read?_set_of_ne _ _ (by simp [Offer.temporary]), Disk.read?_set_self]
  have part : written.read? (o.temporary 1) = some (o.document.take 2) := by
    refine @Disk.read?_append_self _ _ [] _ ?_
    rw [Disk.read?_append_of_ne (by simp [Offer.temporary]), Disk.read?_set_self]
  have visible := @Disk.read?_rename_self _ _ (.document o.path) _ whole
  refine ⟨_, stopped, rfl, visible, ?_, ?_⟩
  · rw [← part]
    exact Disk.read?_rename_of_ne (by simp [Offer.temporary]) (by simp [Offer.temporary])
  · intro extension name
    exact (documents_whole stopped visible).2.2 _ extension (by decide) name

end Session

/-! ### One call at a time -/

/-- The documents on a disk are those of an archive. -/
def Disk.Agrees (d : Disk) (a : Archive) : Prop :=
  ∀ path, d.read? (.document path) = a.find? path

/-- When an offer is taken, and what comes of it. -/
theorem Archive.store_eq_ok_iff {a a' : Archive} {o : Offer} {artifact : Artifact} :
    a.store o.fetchedAt o.source o.name o.document = .ok (a', artifact) ↔
      (a.writable = true ∧ Utf8.size o.path.fileName ≤ longestName) ∧
        a' = (if a.has o.path then a else { a with files := (o.path, o.document) :: a.files }) ∧
        artifact = ⟨Sha256.hex o.document, FileName.sanitize o.name, o.path, o.document.length,
          a.has o.path⟩ := by
  have unfolded : a.store o.fetchedAt o.source o.name o.document =
      if !a.writable then .error .noDirectory
      else if Utf8.size o.path.fileName > longestName then .error .nameTooLong
      else .ok (if a.has o.path then a else { a with files := (o.path, o.document) :: a.files },
        ⟨Sha256.hex o.document, FileName.sanitize o.name, o.path, o.document.length,
          a.has o.path⟩) := rfl
  rw [unfolded]
  cases a.writable with
  | false => simp
  | true =>
    by_cases long : Utf8.size o.path.fileName > longestName
    · rw [if_neg (by simp), if_pos long]
      constructor
      · intro failed
        cases failed
      · rintro ⟨⟨-, fits⟩, -⟩
        exact absurd fits (Nat.not_le_of_gt long)
    · rw [if_neg (by simp), if_neg long, Except.ok.injEq, Prod.mk.injEq, eq_comm,
        eq_comm (b := artifact)]
      exact (and_iff_right ⟨rfl, Nat.le_of_not_gt long⟩).symm

theorem Archive.find?_cons (a : Archive) (own path : ArchivePath) (document : Bytes) :
    Archive.find? { a with files := (own, document) :: a.files } path =
      if path = own then some document else a.find? path := by
  by_cases same : path = own
  · simp [Archive.find?, same]
  · simp [Archive.find?, same, Ne.symm same]

theorem Archive.find?_discard (a : Archive) (gone path : ArchivePath) :
    (a.discard gone).find? path = if path = gone then none else a.find? path := by
  unfold Archive.find? Archive.discard
  rw [List.find?_filter]
  split
  · rename_i same
    simp [same]
  · rename_i other
    congr 2
    funext file
    by_cases own : file.1 = path
    · simp [own, other]
    · simp [own]

namespace Session

variable {s : Session} {a a' : Archive} {o : Offer}

/-- A session in which a call that stores a document was begun last. -/
def withCall (s : Session) (o : Offer) (d : Disk) (issued : Nat) (stage : StoringStage) : Session :=
  ⟨d, issued, o :: s.offered, s.activities ++ [.storing o stage]⟩

theorem step_withCall {d d' : Disk} {issued issued' : Nat} {stage stage' : StoringStage}
    (step : Activity.Step d issued (.storing o stage) d' issued' (.storing o stage')) :
    Step (s.withCall o d issued stage) (s.withCall o d' issued' stage') :=
  .advance rfl step

/-- What the archive does when it stores a document is what a call does between whose steps nothing
happens. -/
theorem exists_run_store {artifact : Artifact} (agrees : s.disk.Agrees a)
    (stored : a.store o.fetchedAt o.source o.name o.document = .ok (a', artifact)) :
    ∃ d issued, Relation.ReflTransGen Step s
        (s.withCall o d issued (.returned (some artifact.deduplicated))) ∧ d.Agrees a' := by
  have begin : Relation.ReflTransGen Step s (s.withCall o s.disk s.issued .directoryMade) :=
    .head (.offer o) (.single (step_withCall .makeDirectory))
  obtain ⟨-, after, described⟩ := Archive.store_eq_ok_iff.mp stored
  have known : artifact.deduplicated = a.has o.path := by rw [described]
  by_cases there : a.has o.path = true
  · rw [if_pos there] at after
    rw [known, there, after]
    have found : (s.disk.read? (.document o.path)).isSome := by
      rw [agrees]
      exact there
    exact ⟨s.disk, s.issued, begin.tail (step_withCall (.findDocument found)), agrees⟩
  · -- The document is new, so the call goes all the way: an empty temporary file, all its bytes
    -- at once, and the rename.
    rw [if_neg there] at after
    rw [known, Bool.eq_false_iff.mpr there, after]
    have nothing : s.disk.read? (.document o.path) = none := by
      rw [agrees]
      simpa [Archive.has] using there
    let created := s.disk.set (o.temporary s.issued) (some [])
    let written := created.append (o.temporary s.issued) o.document
    have content : written.read? (o.temporary s.issued) = some o.document :=
      Disk.read?_append_self (s.disk.read?_set_self _ _)
    have write : Activity.Step created (s.issued + 1) (.storing o (.writing s.issued 0)) written
        (s.issued + 1) (.storing o (.writing s.issued o.document.length)) := by
      have whole : o.document.drop 0 = o.document ++ [] := by simp
      have step := @Activity.Step.write created (s.issued + 1) o s.issued 0 o.document [] whole
      rwa [Nat.zero_add] at step
    refine ⟨written.rename (o.temporary s.issued) (.document o.path), s.issued + 1, ?_, ?_⟩
    · exact (((begin.tail (step_withCall (.findNothing nothing))).tail
        (step_withCall .createTemporary)).tail (step_withCall write)).tail (step_withCall .rename)
    · intro path
      rw [Archive.find?_cons]
      split
      · rename_i own
        rw [own, Disk.read?_rename_self content]
      · rename_i other
        -- No other document is touched on the way, only the temporary file.
        rw [Disk.read?_rename_of_ne (by simp [Offer.temporary]) (by simpa using other),
          Disk.read?_append_of_ne (by simp [Offer.temporary]),
          Disk.read?_set_of_ne _ _ (by simp [Offer.temporary])]
        exact agrees path

/-- What the archive does when it discards a document is what a call does. -/
theorem exists_run_discard (agrees : s.disk.Agrees a) (path : ArchivePath) :
    ∃ s', Relation.ReflTransGen Step s s' ∧ s'.disk.Agrees (a.discard path) ∧
      s'.activities = s.activities ++ [.discarded] := by
  have removed : Step { s with activities := s.activities ++ [.discarding path] }
      { s with
        disk := s.disk.remove (.document path)
        activities := s.activities ++ [.discarded] } :=
    .advance rfl .discard
  refine ⟨_, .head (.discard path) (.single removed), ?_, rfl⟩
  intro other
  change (s.disk.remove (.document path)).read? _ = _
  rw [Archive.find?_discard]
  split
  · rename_i own
    rw [own, Disk.read?_remove_self]
  · rename_i foreign
    rw [Disk.read?_remove_of_ne (by simpa using foreign)]
    exact agrees other

end Session

end RouteAlerts
