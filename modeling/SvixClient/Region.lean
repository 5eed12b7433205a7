import SvixClient.Config
import Mathlib.Data.List.Basic

namespace SvixClient

section SplitOnP

variable {α : Type} (p : α → Bool)

/-- Splitting at one separator splits the two sides independently. -/
theorem splitOnP_append_cons (xs as : List α) {sep : α} (hsep : p sep) :
    (xs++sep::as).splitOnP p=xs.splitOnP p++as.splitOnP p := by
  induction xs with
  | nil => simp [List.splitOnP_cons,hsep]
  | cons x xs ih =>
    obtain ⟨l,ls,hl⟩ := List.exists_cons_of_ne_nil (List.splitOnP_ne_nil p xs)
    by_cases hx : p x <;> simp [List.splitOnP_cons,hx,ih,hl]

/-- The last piece of a split is what follows the last separator. -/
theorem getLast?_splitOnP_append_cons (xs as : List α) {sep : α} (hsep : p sep)
    (has : ∀ x∈as, ¬p x) : ((xs++sep::as).splitOnP p).getLast?=some as := by
  rw [splitOnP_append_cons p xs as hsep,List.splitOnP_eq_single p as has]
  simp

theorem getLast?_splitOnP_of_forall (xs : List α) (h : ∀ x∈xs, ¬p x) :
    (xs.splitOnP p).getLast?=some xs := by
  rw [List.splitOnP_eq_single p xs h]
  rfl

/-- A list with a separator has a last one. -/
theorem exists_last_sep (xs : List α) (h : ∃ x∈xs, p x) :
    ∃ pre sep suf, xs=pre++sep::suf ∧ p sep ∧ ∀ x∈suf, ¬p x := by
  induction xs with
  | nil => simp at h
  | cons x xs ih =>
    by_cases hxs : ∃ y∈xs, p y
    · obtain ⟨pre,sep,suf,rfl,hsep,hsuf⟩ := ih hxs
      exact ⟨x::pre,sep,suf,rfl,hsep,hsuf⟩
    · have hx : p x := by simpa [hxs] using h
      exact ⟨[],x,xs,rfl,hx,by simpa using hxs⟩

end SplitOnP

theorem forall_not_dot_iff (l : List Char) : (∀ x∈l, ¬(x == '.')=true) ↔ '.'∉l := by
  simp [List.forall_mem_ne']

/-- seg is the text after the last '.' of t, or all of t when t has no '.':
what Iterator::last reads from str::split. -/
def LastSegment (t seg : String) : Prop :=
  (∃ pre, t.data=pre ++ '.' :: seg.data ∧ '.'∉seg.data) ∨ ('.'∉t.data ∧ t=seg)

/-- The last piece of the split is exactly the last segment. -/
theorem split_getLast?_eq_some_iff (t seg : String) :
    (t.split (· == '.')).getLast?=some seg ↔ LastSegment t seg := by
  rw [String.split_of_valid,List.getLast?_map]
  constructor
  · intro h
    by_cases hd : '.'∈t.data
    · obtain ⟨pre,sep,suf,ht,hsep,hsuf⟩ := exists_last_sep (· == '.') t.data ⟨_,hd,by simp⟩
      rw [ht,getLast?_splitOnP_append_cons (· == '.') pre suf hsep hsuf] at h
      obtain rfl : sep = '.' := by simpa using hsep
      obtain rfl : String.mk suf=seg := by simpa using h
      exact .inl ⟨pre,ht,(forall_not_dot_iff suf).mp hsuf⟩
    · rw [getLast?_splitOnP_of_forall _ _ ((forall_not_dot_iff _).mpr hd)] at h
      exact .inr ⟨hd,by simpa using h⟩
  · rintro (⟨pre,ht,hs⟩|⟨hd,rfl⟩)
    · rw [ht,getLast?_splitOnP_append_cons (· == '.') pre _ (by simp)
        ((forall_not_dot_iff _).mpr hs)]
      rfl
    · rw [getLast?_splitOnP_of_forall _ _ ((forall_not_dot_iff _).mpr hd)]
      rfl

/-- The split always has a last piece (str::split yields at least one). -/
theorem exists_split_getLast? (t : String) : ∃ seg, (t.split (· == '.')).getLast?=some seg := by
  rw [String.split_of_valid,List.getLast?_map]
  obtain ⟨l,hl⟩ := Option.ne_none_iff_exists'.mp
    (mt List.getLast?_eq_none_iff.mp (List.splitOnP_ne_nil _ t.data))
  exact ⟨_,by rw [hl]; rfl⟩

theorem regionBasePath_of_getLast? {t seg : String} (h : (t.split (· == '.')).getLast?=some seg) :
    regionBasePath t=
      if seg="us" then "https://api.us.svix.com" else if seg="eu" then "https://api.eu.svix.com"
      else if seg="in" then "https://api.in.svix.com" else "https://api.svix.com" := by
  unfold regionBasePath
  rw [h]
  split <;> simp_all

/-- The base paths the region rule allows for an override and a token t: the override when
there is one, else the host named by the token's last segment. -/
def RegionLaw (serverUrl : Option String) (t b : String) : Prop :=
  match serverUrl with
  | some u => b=u
  | none =>
    (b="https://api.us.svix.com" ↔ LastSegment t "us") ∧
    (b="https://api.eu.svix.com" ↔ LastSegment t "eu") ∧
    (b="https://api.in.svix.com" ↔ LastSegment t "in") ∧
    (b="https://api.svix.com" ↔ ¬LastSegment t "us" ∧ ¬LastSegment t "eu" ∧ ¬LastSegment t "in")

theorem regionLaw_regionBasePath (t : String) : RegionLaw none t (regionBasePath t) := by
  obtain ⟨seg,h⟩ := exists_split_getLast? t
  simp only [RegionLaw,regionBasePath_of_getLast? h,← split_getLast?_eq_some_iff,h,
    Option.some_inj]
  split_ifs <;> simp_all

theorem regionLaw_getD (serverUrl : Option String) (t : String) :
    RegionLaw serverUrl t (serverUrl.getD (regionBasePath t)) := by
  cases serverUrl with
  | none => exact regionLaw_regionBasePath t
  | some u => rfl

theorem withToken_regionLaw {Client : Type} (s : Svix Client) (t : String) :
    RegionLaw s.serverUrl t (s.withToken t).cfg.basePath ∧
    ∀ crateVersion (client : Client) o,
      RegionLaw o.serverUrl t (Svix.new crateVersion client t (some o)).cfg.basePath :=
  ⟨regionLaw_getD _ t,fun _ _ o => regionLaw_getD o.serverUrl t⟩

theorem new_dotless_region_token :
    '.'∉"us".data ∧ (Svix.new "" () "us" (some SvixOptions.default)).serverUrl=none ∧
      (Svix.new "" () "us" (some SvixOptions.default)).cfg.basePath="https://api.us.svix.com" := by
  have hd : '.'∉"us".data := by decide
  have h := (split_getLast?_eq_some_iff "us" "us").mpr (.inr ⟨hd,rfl⟩)
  exact ⟨hd,rfl,by simp [Svix.new,SvixOptions.default,regionBasePath_of_getLast? h]⟩

end SvixClient
