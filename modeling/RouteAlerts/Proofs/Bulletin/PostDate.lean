import RouteAlerts.Proofs.Bulletin.FirstUsable
import RouteAlerts.Proofs.Calendar.Written
import RouteAlerts.Proofs.Text.Substitute

/-!
The day that a post of the board is about. A post is found by the words that the title of a bulletin
starts with, but its date is read from the first six digits in a row anywhere in the title. These
are the digits behind the words unless six others stand before them (`date?_eq`). So a bulletin is
filed under the day it was searched for exactly when no such six digits name another day
(`filed_under_day_iff`).
-/

namespace RouteAlerts

open Text

namespace Bulletin

namespace Post

def firstSix? (s : List Char) : Option (List Char) :=
  (firstMatch (digits? 6) s).map fun (_, digits, _) => digits

/-- The date that the first six digits in a row of a text name. -/
def dateIn? (s : List Char) : Option Date := (firstSix? s).bind Date.ofStamp?

theorem date?_eq_dateIn? (p : Post) : p.date? = dateIn? p.title := by
  rw [dateIn?, firstSix?, Option.bind_map]
  rfl

variable {date : Date}

theorem titleFor_append (after : List Char) :
    titleFor date ++ after = "오늘의 집회 ".toList ++ (date.stamp ++ after) :=
  List.append_assoc ..

theorem firstSix?_titleFor (date : Date) (after : List Char) :
    firstSix? (titleFor date ++ after) = some date.stamp := by
  have words : Silent (digits? 6) "오늘의 집회 ".toList (date.stamp ++ after) := by
    have none : "오늘의 집회 ".toList.all (!isDigit ·) = true := by decide +kernel
    refine silent_of_heads (p := isDigit) ?_ fun c hc => by simpa using List.all_eq_true.mp none c hc
    intro c t other
    exact digits?_eq_none (by decide) (by simpa using other)
  have stamp : digits? 6 (date.stamp ++ after) = some (date.stamp, after) :=
    digits?_eq_some_iff.mpr ⟨date.length_stamp, fun c => Date.isDigit_of_mem_stamp, rfl⟩
  have nonempty : date.stamp ≠ [] := by
    rw [← List.length_pos_iff, date.length_stamp]
    decide
  rw [firstSix?, titleFor_append, firstMatch_silent words, firstMatch_match nonempty stamp]
  rfl

/-- Six digits in front of the words for a day come first; without them those behind the words
do. -/
theorem firstSix?_append (before after : List Char) :
    firstSix? (before ++ (titleFor date ++ after)) =
      some ((firstSix? before).getD date.stamp) := by
  -- The words open with a syllable, so no six digits reach into them.
  have apart := @firstMatch_append _ (digits? 6) (titleFor date ++ after) (fun t _ =>
    digits?_append (c := '오') (by decide +kernel) t ("늘의 집회 ".toList ++ date.stamp ++ after))
  have own := firstSix?_titleFor date after
  rw [firstSix?, Option.map_eq_some_iff] at own
  obtain ⟨⟨gap, digits, rest⟩, found, rfl⟩ := own
  rw [firstSix?, firstSix?, apart, found]
  cases firstMatch (digits? 6) before with
  | none => rfl
  | some hit => rfl

/-- The day that a post is filed under which was searched for by the words for a day. The text
before the words decides: a date that its first six digits name goes before the day of the words. -/
structure FiledBy (searched : Date) (title : List Char) (filed : Date) : Prop where
  named : ∃ before after, title = before ++ (titleFor searched ++ after)
  day : ∀ before after, title = before ++ (titleFor searched ++ after) →
    filed = (dateIn? before).getD searched

theorem FiledBy.eq_iff {searched filed : Date} {before after : List Char}
    (h : FiledBy searched (before ++ (titleFor searched ++ after)) filed) :
    filed = searched ↔ ∀ other, dateIn? before = some other → other = searched := by
  rw [h.day before after rfl]
  cases dateIn? before with
  | none => simp
  | some other => simp

/-- Words for a day of this century with no six digits before them are read as that day. -/
theorem dateIn?_append (low : 2000 ≤ date.year) (high : date.year ≤ 2099)
    (before after : List Char) : dateIn? (before ++ (titleFor date ++ after)) =
      match firstSix? before with
      | some digits => Date.ofStamp? digits
      | none => some date := by
  rw [dateIn?, firstSix?_append, Option.bind_some]
  cases firstSix? before with
  | none => exact Date.ofStamp?_stamp low high
  | some digits => rfl

/-- The day of the week makes no difference: a title that has it behind the words has the words. -/
theorem find?_eq (posts : List Post) (date : Date) :
    find? posts date = posts.find? fun p => contains p.title (titleFor date) := by
  refine congrArg (posts.find? ·) (funext fun p => ?_)
  rw [Bool.or_eq_right_iff_imp, contains_iff_infix, contains_iff_infix]
  exact (List.prefix_append _ _).isInfix.trans

theorem filedBy_of_find? {posts : List Post} {p : Post} (low : 2000 ≤ date.year)
    (high : date.year ≤ 2099) (h : find? posts date = some p) :
    FiledBy date p.title (p.date?.getD date) := by
  constructor
  · rw [find?_eq] at h
    have words := List.find?_some h
    obtain ⟨before, after, split⟩ := contains_iff_infix.mp words
    exact ⟨before, after, by rw [← split, List.append_assoc]⟩
  · intro before after split
    rw [date?_eq_dateIn?, split, dateIn?_append low high, dateIn?]
    cases firstSix? before with
    | none => rfl
    | some digits => rfl

end Post

/-! ### Fetched bulletins -/

section Fetched

open Web

variable {site : Site} {client : Client} {world : World}

/-- The document of a fetched bulletin is filed under the local day of the fetch, by whose words its
post was found, unless the title names another date before them. -/
theorem filedBy_of_fetch {fetchedAt : Moment} {archive : Archive} {d : Document}
    (low : 2000 ≤ (Seoul.localDate fetchedAt).year) (high : (Seoul.localDate fetchedAt).year ≤ 2099)
    (h : ((fetch site client fetchedAt archive).run world).1.1 = .ok d) :
    Post.FiledBy (Seoul.localDate fetchedAt) d.title d.date := by
  obtain ⟨post, view, bytes, name, artifact, w₁, found, -, -, rfl⟩ :=
    fetch_eq_ok_iff.mp (Prod.ext (Prod.ext h rfl) rfl)
  obtain ⟨response, -, isFound⟩ := findPost_eq_ok_iff.mp found
  exact Post.filedBy_of_find? low high isFound

end Fetched

/-! ### Posts found for a day -/

/-- A post that is found for a day of this century has the words for the day in its title, and is
filed under the day that the first six digits before them name, or else under the day itself. So it
is filed under another day exactly when six digits before the words name another. Where no six
digits stand before the words, the title is read as that day. -/
theorem filed_under_day_iff {posts : List Post} {date : Date} {p : Post} (low : 2000 ≤ date.year)
    (high : date.year ≤ 2099) (found : Post.find? posts date = some p) :
    (∃ before after, p.title = before ++ (Post.titleFor date ++ after)) ∧
      ∀ before after, p.title = before ++ (Post.titleFor date ++ after) →
        (p.date?.getD date = date ↔
          ∀ other, Post.dateIn? before = some other → other = date) ∧
        p.date?.getD date = (Post.dateIn? before).getD date ∧
        (Post.firstSix? before = none → p.date? = some date) := by
  have filed := Post.filedBy_of_find? low high found
  refine ⟨filed.named, fun before after split => ⟨?_, filed.day before after split, ?_⟩⟩
  · rw [split] at filed
    exact filed.eq_iff
  · intro noDigits
    rw [Post.date?_eq_dateIn?, split, Post.dateIn?_append low high, noDigits]

def samplePost (title : String) : Post := ⟨"B".toList, "54882".toList, "1".toList, title.toList⟩

/-- The six digits of a serial number name no date, so that the post is filed under the day it was
searched for. -/
theorem filed_under_day_iff_sample :
    let p := samplePost "제123456호 오늘의 집회 250815 금"
    2000 ≤ Date.sample.year ∧ Date.sample.year ≤ 2099 ∧
      Post.find? [samplePost "오늘의 집회 250814 목", p] Date.sample = some p ∧
      p.date?.getD Date.sample = Date.sample := by
  intro p
  have found : Post.find? [samplePost "오늘의 집회 250814 목", p] Date.sample = some p := by
    decide +kernel
  have unnamed : Post.dateIn? "제123456호 ".toList = none := by decide +kernel
  obtain ⟨-, filed⟩ := filed_under_day_iff (by decide) (by decide) found
  obtain ⟨same, -⟩ := filed "제123456호 ".toList " 금".toList (by decide +kernel)
  refine ⟨by decide, by decide, found, same.mpr fun other named => ?_⟩
  rw [unnamed] at named
  cases named

/-- A post about one day that mentions an earlier one first is filed under the earlier one. -/
theorem filed_under_another_day : ¬ ∀ (posts : List Post) (date : Date) (p : Post),
    2000 ≤ date.year → date.year ≤ 2099 → Post.find? posts date = some p →
    p.date?.getD date = date := by
  intro same
  have filed := same [samplePost "(250814 정정) 오늘의 집회 250815 금"] Date.sample
    (samplePost "(250814 정정) 오늘의 집회 250815 금") (by decide) (by decide) (by decide +kernel)
  revert filed
  decide +kernel

end Bulletin

end RouteAlerts
