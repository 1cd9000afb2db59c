import RouteAlerts.Proofs.Event.Draft
import Mathlib.Data.Finset.Card
import Mathlib.Data.Finset.Dedup

/-!
The places of a store with their days, when all its events were drafted from announcements. Since a
title says where its event is, the two halves of the check for duplicates come to one, the place
with the day, and that is an equivalence. So the places of a batch with their days are simply joined
to those of the store, whatever order it comes in, and no draft of a new one is lost (`sync_built`).
-/

namespace RouteAlerts

def EventDraft.placeDay (d : EventDraft) : String × Option Date :=
  (d.locationName, some d.start.date)

def Row.placeDay (r : Row) : String × Option Date := (r.locationName, r.startDate?)

/-- A draft of an announcement with a year of four digits, at a point of two numbers. -/
def EventDraft.IsBuilt (d : EventDraft) : Prop :=
  ∃ (a : Announcement) (district : List Char) (p : Point),
    a.date.HasPlainYear ∧ p.isNaN = false ∧ d = a.draft district p

def Announcement.drafts (district : List Char) (located : List (Announcement × Point)) :
    List EventDraft :=
  located.map fun (a, p) => a.draft district p

namespace EventDraft

variable {d e : EventDraft}

theorem IsBuilt.isPlain (h : d.IsBuilt) : d.IsPlain := by
  obtain ⟨a, district, p, year, -, rfl⟩ := h
  exact Announcement.isPlain_draft year

theorem IsBuilt.isStorable (h : d.IsBuilt) : d.IsStorable := by
  obtain ⟨a, district, p, -, number, rfl⟩ := h
  exact Announcement.isStorable_draft number

theorem IsBuilt.locationName_eq (hd : d.IsBuilt) (he : e.IsBuilt) (title : d.title = e.title) :
    d.locationName = e.locationName := by
  obtain ⟨a, _, _, -, -, rfl⟩ := hd
  obtain ⟨b, _, _, -, -, rfl⟩ := he
  exact congrArg String.ofList (Announcement.eq_of_title_draft title).1

end EventDraft

namespace EventStore

/-- The places that are taken in a store, each with the day on which it is. -/
def placeDays (s : EventStore) : Finset (String × Option Date) :=
  (s.rows.map Row.placeDay).toFinset

/-- A store each of whose events has the title, the place and the start of a built draft. -/
def IsDrafted (s : EventStore) : Prop :=
  ∀ r ∈ s.rows, ∃ d : EventDraft, d.IsBuilt ∧ r.title = d.title ∧
    r.locationName = d.locationName ∧ r.start = Timestamp.write d.start

variable {s : EventStore} {d : EventDraft}

theorem IsDrafted.dated (h : s.IsDrafted) : ∀ r ∈ s.rows, IsDated r := by
  intro r hr
  obtain ⟨d, built, -, -, start⟩ := h r hr
  exact ⟨d.start, built.isPlain.1, start⟩

theorem IsDrafted.add (h : s.IsDrafted) (now : Moment) (built : d.IsBuilt) :
    (s.add now d).IsDrafted := by
  intro r hr
  rcases mem_rows_add hr with old | rfl
  · exact h r old
  · exact ⟨d, built, rfl, rfl, rfl⟩

theorem IsDrafted.endBefore (h : s.IsDrafted) (now cutoff : Moment) :
    (s.endBefore now cutoff).1.IsDrafted :=
  forall_rows_endBefore (fun drafted => drafted) h now cutoff

theorem isDrafted_after {calls : List StoreCall} (built : ∀ c ∈ calls, ∀ d ∈ c.drafts, d.IsBuilt) :
    (after calls).IsDrafted :=
  after_induction (by intro r hr; cases hr) (fun _ now _ built h => h.add now built)
    (fun _ now cutoff h => h.endBefore now cutoff) built

/-! ### One draft -/

/-- Among drafted events a title keeps out nothing that the place would not keep out. -/
theorem IsDrafted.isTaken_iff (h : s.IsDrafted) (built : d.IsBuilt) :
    (∃ r ∈ s.rows, r.Covers d) ↔ d.placeDay ∈ s.placeDays := by
  rw [placeDays, List.mem_toFinset, List.mem_map]
  refine exists_congr fun r => and_congr_right fun hr => ?_
  rw [Row.Covers, Row.placeDay, EventDraft.placeDay, Prod.mk.injEq]
  refine and_congr_left fun _ => ⟨?_, Or.inl⟩
  rintro (place | title)
  · exact place
  · obtain ⟨e, eBuilt, eTitle, ePlace, -⟩ := h r hr
    rw [ePlace]
    exact eBuilt.locationName_eq built (eTitle.symm.trans title)

theorem IsDrafted.fate_eq (h : s.IsDrafted) (built : d.IsBuilt) :
    s.fate d = if d.placeDay ∈ s.placeDays then .duplicate else .inserted := by
  have due := fate_isDue h.dated built.isPlain
  rw [h.isTaken_iff built] at due
  split
  · rename_i taken
    exact due.unique (b := .duplicate) taken
  · rename_i free
    exact due.unique (b := .inserted) ⟨free, built.isStorable⟩

theorem IsDrafted.placeDays_add (h : s.IsDrafted) (now : Moment) (built : d.IsBuilt) :
    (s.add now d).placeDays = insert d.placeDay s.placeDays := by
  have own : (rowOf (s.lastId + 1) now d).placeDay = d.placeDay := by
    rw [Row.placeDay, startDate?_eq (r := rowOf (s.lastId + 1) now d) built.isPlain.1 rfl]
    rfl
  rw [placeDays, rows_add, h.fate_eq built]
  by_cases taken : d.placeDay ∈ s.placeDays
  · rw [Finset.insert_eq_of_mem taken, if_pos taken]
    simp [placeDays]
  · rw [if_neg taken, if_pos rfl, List.map_append, List.toFinset_append, List.map_singleton, own,
      Finset.union_comm]
    rfl

/-! ### Many drafts -/

theorem IsDrafted.placeDays_sync (h : s.IsDrafted) (now : Moment) {batch : List EventDraft}
    (built : ∀ d ∈ batch, d.IsBuilt) :
    (s.sync now batch).1.placeDays = s.placeDays ∪ (batch.map EventDraft.placeDay).toFinset := by
  induction batch generalizing s with
  | nil => simp
  | cons d batch ih =>
    have first := built d List.mem_cons_self
    rw [sync_cons, ih (h.add now first) fun e he => built e (List.mem_cons_of_mem _ he),
      h.placeDays_add now first, List.map_cons, List.toFinset_cons, Finset.insert_union,
      Finset.union_insert]

/-- As many drafts are inserted as there are new places with their days, and none fails. -/
theorem IsDrafted.tally_fates (h : s.IsDrafted) (now : Moment) {batch : List EventDraft}
    (built : ∀ d ∈ batch, d.IsBuilt) :
    (tally (s.fates now batch)).inserted =
        ((batch.map EventDraft.placeDay).toFinset \ s.placeDays).card ∧
      (tally (s.fates now batch)).failed = 0 := by
  induction batch generalizing s with
  | nil => simp [fates, tally]
  | cons d batch ih =>
    have first := built d List.mem_cons_self
    obtain ⟨inserted, failed⟩ :=
      ih (h.add now first) fun e he => built e (List.mem_cons_of_mem _ he)
    rw [h.placeDays_add now first] at inserted
    rw [List.map_cons, List.toFinset_cons, fates, h.fate_eq first, tally_cons]
    by_cases taken : d.placeDay ∈ s.placeDays
    · rw [Finset.insert_eq_of_mem taken] at inserted
      rw [Finset.insert_sdiff_of_mem _ taken, ← inserted]
      simp only [taken, if_true]
      exact ⟨rfl, failed⟩
    · -- The place is new on this day, and the rest of the batch finds it taken.
      have split : insert d.placeDay (batch.map EventDraft.placeDay).toFinset \ s.placeDays =
          insert d.placeDay
            ((batch.map EventDraft.placeDay).toFinset \ insert d.placeDay s.placeDays) := by
        grind
      rw [split, Finset.card_insert_of_notMem (by simp), ← inserted]
      simp only [taken, if_false]
      exact ⟨rfl, failed⟩

/-- Take a store that was only ever given drafts of announcements, and a batch of such drafts in any
order. Afterwards the places with their days are those of before and those of the batch; as many
events are inserted as there are different ones in the batch that were not taken before, and none
fails. For a title says where its event is and how many take part, and a draft is a duplicate
exactly if its place is taken on its day. -/
theorem sync_built {calls : List StoreCall} (built : ∀ c ∈ calls, ∀ d ∈ c.drafts, d.IsBuilt)
    {located : List (Announcement × Point)}
    (fit : ∀ a p, (a, p) ∈ located → a.date.HasPlainYear ∧ p.isNaN = false)
    (district : List Char) {order : List (Announcement × Point)} (perm : order.Perm located)
    (now : Moment) :
    let s := after calls
    let new := ((Announcement.drafts district located).map EventDraft.placeDay).toFinset
    let result := s.sync now (Announcement.drafts district order)
    result.1.placeDays = s.placeDays ∪ new ∧
      result.2.inserted = (new \ s.placeDays).card ∧
      result.2.failed = 0 ∧
      (∀ (a b : Announcement) (district' : List Char) (p q : Point),
        (a.draft district p).title = (b.draft district' q).title →
          a.locationName = b.locationName ∧ a.headcount = b.headcount) ∧
      ∀ d : EventDraft, d.IsBuilt → (s.fate d = .duplicate ↔ d.placeDay ∈ s.placeDays) := by
  intro s new result
  have drafted : s.IsDrafted := isDrafted_after built
  have batch : ∀ d ∈ Announcement.drafts district order, d.IsBuilt := by
    intro d hd
    obtain ⟨⟨a, p⟩, member, rfl⟩ := List.mem_map.mp hd
    obtain ⟨year, number⟩ := fit a p (perm.mem_iff.mp member)
    exact ⟨a, district, p, year, number, rfl⟩
  -- The order of the batch decides which draft of an event goes in, but not whether one does.
  have same : ((Announcement.drafts district order).map EventDraft.placeDay).toFinset = new :=
    List.toFinset_eq_of_perm _ _ ((perm.map _).map _)
  have counts := drafted.tally_fates now batch
  rw [same, ← sync_snd] at counts
  refine ⟨?_, counts.1, counts.2, fun a b _ p q => Announcement.eq_of_title_draft, fun d hd => ?_⟩
  · rw [← same]
    exact drafted.placeDays_sync now batch
  · rw [drafted.fate_eq hd]
    by_cases taken : d.placeDay ∈ s.placeDays <;> simp [taken]

/-- Announcements for one day, the first of which names a place that reads like the title of the
second. -/
def sampleLocated : List (Announcement × Point) :=
  let located (startTime place : String) (headcount : Option Nat) : Announcement × Point :=
    (⟨.primaryBoard, Date.sample, startTime, untilDismissal, [place], headcount, none, none⟩,
      ⟨37.5, 127.0⟩)
  [located "10:00" "시청 집회 (참가자 5명)" none, located "9:00" "시청" (some 5),
    located "14:00" "시청" none]

theorem sync_built_sample :
    let district := "서울특별시 종로구".toList
    let s := after [.sync sampleMoment (Announcement.drafts district (sampleLocated.take 1))]
    let result := s.sync sampleMoment (Announcement.drafts district sampleLocated.reverse)
    s.placeDays.card = 1 ∧ result.2 = ⟨1, 2, 0⟩ ∧
      result.1.placeDays = s.placeDays ∪
        ((Announcement.drafts district sampleLocated).map EventDraft.placeDay).toFinset := by
  intro district s result
  have fit : ∀ a p, (a, p) ∈ sampleLocated → a.date.HasPlainYear ∧ p.isNaN = false := by
    intro a p member
    simp only [sampleLocated, List.mem_cons, List.not_mem_nil, or_false, Prod.mk.injEq] at member
    rcases member with ⟨rfl, rfl⟩ | ⟨rfl, rfl⟩ | ⟨rfl, rfl⟩ <;> exact ⟨by decide, by decide⟩
  have built : ∀ c ∈ [StoreCall.sync sampleMoment
      (Announcement.drafts district (sampleLocated.take 1))], ∀ d ∈ c.drafts, d.IsBuilt := by
    intro c hc d hd
    rw [List.mem_singleton.mp hc] at hd
    obtain ⟨⟨a, p⟩, member, rfl⟩ := List.mem_map.mp hd
    obtain ⟨year, number⟩ := fit a p (List.mem_of_mem_take member)
    exact ⟨a, district, p, year, number, rfl⟩
  obtain ⟨joined, -⟩ := sync_built built fit district (List.reverse_perm _) sampleMoment
  exact ⟨by decide +kernel, by decide +kernel, joined⟩

end EventStore

end RouteAlerts
