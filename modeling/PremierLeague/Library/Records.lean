import PremierLeague.Library.Series

/-!
# Ordered dictionaries, tables of records and loops that may raise

A dictionary keeps its keys in the order of their first insertion, and setting a key that is
present replaces its value in place. A table of records has the keys of its records, in the
order of their first occurrence, as columns. A join pairs the rows of two tables that satisfy a
condition, and repeats no pair when neither table repeats a row.
-/

namespace Tabular

/-- A dictionary in insertion order. -/
abbrev Dict (κ ν : Type*) := List (κ × ν)

namespace Dict

variable {κ ν : Type*} [DecidableEq κ]

def set : Dict κ ν → κ → ν → Dict κ ν
  | [], k, v => [(k, v)]
  | (j, w) :: d, k, v => if j = k then (k, v) :: d else (j, w) :: set d k v

def get? : Dict κ ν → κ → Option ν
  | [], _ => none
  | (j, w) :: d, k => if j = k then some w else get? d k

def keys (d : Dict κ ν) : List κ := d.map Prod.fst

@[simp] lemma get?_nil (k : κ) : get? ([] : Dict κ ν) k = none := rfl

@[simp] lemma get?_cons (j k : κ) (w : ν) (d : Dict κ ν) :
    get? ((j, w) :: d) k = if j = k then some w else get? d k := rfl

lemma get?_set (d : Dict κ ν) (j k : κ) (v : ν) :
    (d.set j v).get? k = if j = k then some v else d.get? k := by
  induction d with
  | nil => rfl
  | cons e d ih =>
    obtain ⟨i, w⟩ := e
    by_cases hij : i = j
    · subst hij
      by_cases hik : i = k <;> simp [set, hik]
    · have hset : set ((i, w) :: d) j v = (i, w) :: set d j v := if_neg hij
      rw [hset, get?_cons, get?_cons, ih]
      by_cases hik : i = k
      · have hjk : j ≠ k := fun h => hij (hik.trans h.symm)
        rw [if_pos hik, if_pos hik, if_neg hjk]
      · rw [if_neg hik, if_neg hik]

lemma keys_set (d : Dict κ ν) (k : κ) (v : ν) :
    (d.set k v).keys = if k ∈ d.keys then d.keys else d.keys ++ [k] := by
  induction d with
  | nil => rfl
  | cons e d ih =>
    obtain ⟨j, w⟩ := e
    by_cases hjk : j = k
    · subst hjk
      simp [set, keys]
    · unfold keys at ih ⊢
      simp only [set, hjk, if_false, List.map_cons, ih, List.mem_cons, Ne.symm hjk, false_or]
      split
      · rfl
      · rfl

def setAll (d : Dict κ ν) (ks : List κ) (v : κ → ν) : Dict κ ν :=
  ks.foldl (fun acc k => acc.set k (v k)) d

@[simp] lemma setAll_nil (d : Dict κ ν) (v : κ → ν) : d.setAll [] v = d := rfl

@[simp] lemma setAll_cons (d : Dict κ ν) (k : κ) (ks : List κ) (v : κ → ν) :
    d.setAll (k :: ks) v = (d.set k (v k)).setAll ks v := rfl

lemma get?_setAll (d : Dict κ ν) (ks : List κ) (v : κ → ν) (k : κ) :
    (d.setAll ks v).get? k = if k ∈ ks then some (v k) else d.get? k := by
  induction ks generalizing d with
  | nil => simp
  | cons j ks ih =>
    rw [setAll_cons, ih, get?_set]
    by_cases hk : k ∈ ks
    · simp [hk]
    · by_cases hjk : j = k
      · subst hjk
        simp
      · simp [hk, hjk, Ne.symm hjk]

lemma mem_keys_setAll (d : Dict κ ν) (ks : List κ) (v : κ → ν) (k : κ) :
    k ∈ (d.setAll ks v).keys ↔ k ∈ d.keys ∨ k ∈ ks := by
  induction ks generalizing d with
  | nil => simp
  | cons j ks ih =>
    rw [setAll_cons, ih, keys_set]
    by_cases hj : j ∈ d.keys
    · rw [if_pos hj, List.mem_cons]
      constructor
      · rintro (h | h)
        · exact Or.inl h
        · exact Or.inr (Or.inr h)
      · rintro (h | rfl | h)
        · exact Or.inl h
        · exact Or.inl hj
        · exact Or.inr h
    · rw [if_neg hj, List.mem_append, List.mem_singleton, List.mem_cons, or_assoc]

lemma keys_setAll_of_fresh (d : Dict κ ν) {ks : List κ} (v : κ → ν) (hk : ks.Nodup)
    (hd : ∀ k ∈ ks, k ∉ d.keys) : (d.setAll ks v).keys = d.keys ++ ks := by
  induction ks generalizing d with
  | nil => simp
  | cons j ks ih =>
    obtain ⟨hj, hk⟩ := List.nodup_cons.mp hk
    have hkeys : (d.set j (v j)).keys = d.keys ++ [j] := by
      rw [keys_set, if_neg (hd j List.mem_cons_self)]
    rw [setAll_cons, ih _ hk, hkeys, List.append_assoc]
    · rfl
    · intro k hks
      rw [hkeys, List.mem_append, List.mem_singleton]
      rintro (h | h)
      · exact hd k (List.mem_cons_of_mem j hks) h
      · exact hj (h ▸ hks)

lemma exists_get?_of_mem_keys {d : Dict κ ν} {k : κ} (h : k ∈ d.keys) :
    ∃ v, d.get? k = some v := by
  induction d with
  | nil => exact absurd h List.not_mem_nil
  | cons e d ih =>
    obtain ⟨j, w⟩ := e
    by_cases hjk : j = k
    · exact ⟨w, if_pos hjk⟩
    · rw [get?_cons, if_neg hjk]
      exact ih ((List.mem_cons.mp h).resolve_left (Ne.symm hjk))

lemma get?_map_pair (ks : List κ) (v : κ → ν) (k : κ) :
    get? (ks.map (fun j => (j, v j))) k = if k ∈ ks then some (v k) else none := by
  induction ks with
  | nil => rfl
  | cons j ks ih =>
    by_cases hjk : j = k
    · subst hjk
      simp
    · simp [hjk, Ne.symm hjk, ih]

end Dict

/-- A table: its columns, and for each row the cell under every column. -/
structure Frame (ν : Type*) where
  columns : List String
  rows : List (Dict String (Option ν))
deriving DecidableEq

namespace Frame

variable {ν : Type*}

/-- The table of a list of records; a record without some column leaves its cell missing. -/
def fromRecords (rs : List (Dict String ν)) : Frame ν where
  columns := Series.unique (rs.flatMap Dict.keys)
  rows := rs.map (fun r =>
    (Series.unique (rs.flatMap Dict.keys)).map (fun c => (c, Dict.get? r c)))

def cell (row : Dict String (Option ν)) (col : String) : Option ν := (Dict.get? row col).join

lemma get?_eq_none_of_notMem {r : Dict String ν} {c : String} (h : c ∉ Dict.keys r) :
    Dict.get? r c = none := by
  induction r with
  | nil => rfl
  | cons e r ih =>
    obtain ⟨j, w⟩ := e
    simp only [Dict.keys, List.map_cons, List.mem_cons, not_or] at h ih
    rw [Dict.get?_cons, if_neg (Ne.symm h.1), ih h.2]

/-- The rows of a table of records hold exactly what the records hold. -/
lemma cell_fromRecords {rs : List (Dict String ν)} {r : Dict String ν} (hr : r ∈ rs)
    (c : String) :
    cell ((Series.unique (rs.flatMap Dict.keys)).map (fun c => (c, Dict.get? r c))) c =
      Dict.get? r c := by
  unfold cell
  rw [Dict.get?_map_pair]
  by_cases hc : c ∈ Dict.keys r
  · rw [if_pos (Series.mem_unique.mpr (List.mem_flatMap.mpr ⟨r, hr, hc⟩)), Option.join_some]
  · rw [get?_eq_none_of_notMem hc]
    split
    · rfl
    · rfl

lemma columns_fromRecords {rs : List (Dict String ν)} (hrs : rs ≠ []) {ks : List String}
    (hk : ks.Nodup) (h : ∀ r ∈ rs, Dict.keys r = ks) : (fromRecords rs).columns = ks := by
  obtain ⟨r, rs, rfl⟩ := List.exists_cons_of_ne_nil hrs
  have hsub : rs.flatMap Dict.keys ⊆ Dict.keys r := by
    intro c hc
    obtain ⟨r', hr', hc⟩ := List.mem_flatMap.mp hc
    rwa [h r List.mem_cons_self, ← h r' (List.mem_cons_of_mem r hr')]
  change Series.unique ((r :: rs).flatMap Dict.keys) = ks
  rw [List.flatMap_cons, Series.unique_append_of_subset hsub, h r List.mem_cons_self,
    Series.unique_of_nodup hk]

end Frame

/-- The first list with an element answers for it. -/
lemma findSome?_ite_mem {α β : Type*} [DecidableEq α] {ls : List (List α)} {a : α} (b : β)
    (h : a ∈ ls.flatten) : ls.findSome? (fun l => if a ∈ l then some b else none) = some b := by
  obtain ⟨l, hl, ha⟩ := List.mem_flatten.mp h
  cases hfind : ls.findSome? (fun l => if a ∈ l then some b else none) with
  | none =>
    have hnone := List.findSome?_eq_none_iff.mp hfind l hl
    rw [if_pos ha] at hnone
    exact nomatch hnone
  | some b' =>
    obtain ⟨l', -, hb⟩ := List.exists_of_findSome?_eq_some hfind
    split at hb
    · exact hb.symm
    · exact nomatch hb

section Loops

variable {ε α β κ ν : Type}

@[simp] lemma ok_bind (a : α) (f : α → Except ε β) : (Except.ok a >>= f) = f a := rfl

/-- A sequence that returns has returned from each of its parts. -/
lemma exists_of_bind_ok {x : Except ε α} {f : α → Except ε β} {b : β}
    (h : (x >>= f) = .ok b) : ∃ a, x = .ok a ∧ f a = .ok b := by
  cases x with
  | error e => exact nomatch h
  | ok a => exact ⟨a, rfl, h⟩

/-- A sequence that raises has raised in one of its parts. -/
lemma error_of_bind_error {x : Except ε α} {f : α → Except ε β} {e : ε}
    (h : (x >>= f) = .error e) : x = .error e ∨ ∃ a, x = .ok a ∧ f a = .error e := by
  cases x with
  | error e' => exact Or.inl (congrArg Except.error (Except.error.inj h))
  | ok a => exact Or.inr ⟨a, rfl, h⟩

/-- A loop that collects results returns when every round does. -/
lemma mapM_ok {f : α → Except ε β} {g : α → β} {l : List α} (h : ∀ a ∈ l, f a = .ok (g a)) :
    l.mapM f = .ok (l.map g) := by
  induction l with
  | nil => rfl
  | cons a l ih =>
    rw [List.mapM_cons, h a List.mem_cons_self,
      ih (fun b hb => h b (List.mem_cons_of_mem a hb))]
    rfl

lemma mapM_some {f : α → Option β} {g : α → β} {l : List α} (h : ∀ a ∈ l, f a = some (g a)) :
    l.mapM f = some (l.map g) := by
  induction l with
  | nil => rfl
  | cons a l ih =>
    rw [List.mapM_cons, h a List.mem_cons_self,
      ih (fun b hb => h b (List.mem_cons_of_mem a hb))]
    rfl

/-- A list that is read has each of its elements read. -/
lemma mapM_eq_some_iff {f : α → Option β} {l : List α} {r : List β} :
    l.mapM f = some r ↔ List.Forall₂ (fun a b => f a = some b) l r := by
  induction l generalizing r with
  | nil => simp [eq_comm]
  | cons a l ih =>
    rw [List.mapM_cons, List.forall₂_cons_left_iff]
    simp only [Option.bind_eq_bind, Option.bind_eq_some_iff, Option.pure_def, Option.some.injEq, ih]
    constructor
    · rintro ⟨b, hb, bs, hbs, rfl⟩
      exact ⟨b, bs, hb, hbs, rfl⟩
    · rintro ⟨b, bs, hb, hbs, rfl⟩
      exact ⟨b, hb, bs, hbs, rfl⟩

lemma some_of_mapM_some {f : α → Option β} {l : List α} {r : List β} (h : l.mapM f = some r) :
    ∀ a ∈ l, ∃ b, f a = some b := by
  intro a ha
  induction mapM_eq_some_iff.mp h with
  | nil => exact absurd ha List.not_mem_nil
  | @cons c b l r hc htail ih =>
    rcases List.mem_cons.mp ha with rfl | ha
    · exact ⟨b, hc⟩
    · exact ih (mapM_eq_some_iff.mpr htail) ha

lemma mem_of_mapM_some {f : α → Option β} {l : List α} {r : List β} (h : l.mapM f = some r) :
    ∀ b ∈ r, ∃ a ∈ l, f a = some b := by
  intro b hb
  induction mapM_eq_some_iff.mp h with
  | nil => exact absurd hb List.not_mem_nil
  | @cons a c l r hc htail ih =>
    rcases List.mem_cons.mp hb with rfl | hb
    · exact ⟨a, List.mem_cons_self, hc⟩
    · obtain ⟨d, hd, hf⟩ := ih (mapM_eq_some_iff.mpr htail) hb
      exact ⟨d, List.mem_cons_of_mem a hd, hf⟩

/-- What is counted before and after reading alike is counted as often. -/
lemma length_filter_of_mapM_some {f : α → Option β} {l : List α} {r : List β}
    (h : l.mapM f = some r) {p : α → Bool} {q : β → Bool}
    (hpq : ∀ a b, f a = some b → p a = q b) : (l.filter p).length = (r.filter q).length := by
  induction mapM_eq_some_iff.mp h with
  | nil => rfl
  | @cons a b l r hab htail ih =>
    have hlength := ih (mapM_eq_some_iff.mpr htail)
    rw [List.filter_cons, List.filter_cons, hpq a b hab]
    split
    · rw [List.length_cons, List.length_cons, hlength]
    · exact hlength

/-- Reading segments put together is reading each of them. -/
lemma mapM_flatMap {f : β → Option ν} {g : α → List β} {l : List α} :
    (l.flatMap g).mapM f = (l.mapM (fun a => (g a).mapM f)).map List.flatten := by
  induction l with
  | nil => rfl
  | cons a l ih =>
    rw [List.flatMap_cons, List.mapM_append, ih, List.mapM_cons]
    cases (g a).mapM f with
    | none => rfl
    | some b => cases l.mapM (fun a => (g a).mapM f) <;> rfl

lemma mapM_congr {f g : α → Option β} {l : List α} (h : ∀ a ∈ l, f a = g a) :
    l.mapM f = l.mapM g := by
  induction l with
  | nil => rfl
  | cons a l ih =>
    rw [List.mapM_cons, List.mapM_cons, h a List.mem_cons_self,
      ih (fun b hb => h b (List.mem_cons_of_mem a hb))]

lemma ok_of_mapM_ok {f : α → Except ε β} {l : List α} {r : List β} (h : l.mapM f = .ok r) :
    ∀ a ∈ l, ∃ b, f a = .ok b := by
  induction l generalizing r with
  | nil => simp
  | cons a l ih =>
    rw [List.mapM_cons] at h
    obtain ⟨b, hb, h⟩ := exists_of_bind_ok h
    obtain ⟨bs, hbs, -⟩ := exists_of_bind_ok h
    intro c hc
    rcases List.mem_cons.mp hc with rfl | hc
    · exact ⟨b, hb⟩
    · exact ih hbs c hc

lemma mapM_ok_iff {f : α → Except ε β} {l : List α} :
    (∃ r, l.mapM f = .ok r) ↔ ∀ a ∈ l, ∃ b, f a = .ok b := by
  constructor
  · rintro ⟨r, h⟩
    exact ok_of_mapM_ok h
  · intro h
    induction l with
    | nil => exact ⟨[], rfl⟩
    | cons a l ih =>
      obtain ⟨b, hb⟩ := h a List.mem_cons_self
      obtain ⟨bs, hbs⟩ := ih (fun c hc => h c (List.mem_cons_of_mem a hc))
      refine ⟨b :: bs, ?_⟩
      rw [List.mapM_cons, hb, hbs]
      rfl

lemma eq_map_of_mapM_ok {f : α → Except ε β} {g : α → β} {l : List α} {r : List β}
    (hg : ∀ a b, f a = .ok b → b = g a) (h : l.mapM f = .ok r) : r = l.map g := by
  have hok : ∀ a ∈ l, f a = .ok (g a) := by
    intro a ha
    obtain ⟨b, hb⟩ := ok_of_mapM_ok h a ha
    rw [hb, hg a b hb]
  rw [mapM_ok hok] at h
  exact (Except.ok.inj h).symm

lemma error_of_mapM_error {f : α → Except ε β} {l : List α} {e : ε}
    (h : l.mapM f = .error e) : ∃ a ∈ l, f a = .error e := by
  induction l with
  | nil => exact nomatch h
  | cons a l ih =>
    rw [List.mapM_cons] at h
    rcases error_of_bind_error h with h | ⟨b, -, h⟩
    · exact ⟨a, List.mem_cons_self, h⟩
    · rcases error_of_bind_error h with h | ⟨bs, -, h⟩
      · obtain ⟨c, hc, hf⟩ := ih h
        exact ⟨c, List.mem_cons_of_mem a hc, hf⟩
      · exact nomatch h

variable [DecidableEq κ]

/-- A loop that sets a key in each round. -/
def setLoop (f : κ → Except ε ν) (ks : List κ) (d : Dict κ ν) :
    Except ε (Dict κ ν) :=
  ks.foldlM (fun acc k => do return acc.set k (← f k)) d

lemma setLoop_ok {f : κ → Except ε ν} {v : κ → ν} {ks : List κ} (h : ∀ k ∈ ks, f k = .ok (v k))
    (d : Dict κ ν) : setLoop f ks d = .ok (d.setAll ks v) := by
  induction ks generalizing d with
  | nil => rfl
  | cons k ks ih =>
    have hstep : setLoop f (k :: ks) d = (f k >>= fun w => setLoop f ks (d.set k w)) := by
      unfold setLoop
      rw [List.foldlM_cons]
      cases f k <;> rfl
    rw [hstep, h k List.mem_cons_self, Dict.setAll_cons]
    exact ih (fun j hj => h j (List.mem_cons_of_mem k hj)) _

lemma ok_of_setLoop_ok {f : κ → Except ε ν} {ks : List κ} {d e : Dict κ ν}
    (h : setLoop f ks d = .ok e) : ∀ k ∈ ks, ∃ v, f k = .ok v := by
  induction ks generalizing d with
  | nil => simp
  | cons k ks ih =>
    unfold setLoop at h ih
    rw [List.foldlM_cons] at h
    obtain ⟨d', hd, h⟩ := exists_of_bind_ok h
    obtain ⟨v, hv, -⟩ := exists_of_bind_ok hd
    intro j hj
    rcases List.mem_cons.mp hj with rfl | hj
    · exact ⟨v, hv⟩
    · exact ih h j hj

lemma error_of_setLoop_error {f : κ → Except ε ν} {ks : List κ} {d : Dict κ ν} {e : ε}
    (h : setLoop f ks d = .error e) : ∃ k ∈ ks, f k = .error e := by
  induction ks generalizing d with
  | nil => exact nomatch h
  | cons k ks ih =>
    unfold setLoop at h ih
    rw [List.foldlM_cons] at h
    rcases error_of_bind_error h with h | ⟨d', -, h⟩
    · rcases error_of_bind_error h with h | ⟨v, -, h⟩
      · exact ⟨k, List.mem_cons_self, h⟩
      · exact nomatch h
    · obtain ⟨j, hj, hf⟩ := ih h
      exact ⟨j, List.mem_cons_of_mem k hj, hf⟩

end Loops

/-! ### Joins -/

section Join

variable {α β : Type*}

/-- The pairs of rows that satisfy the condition. -/
def join (on : α → β → Bool) (r : List α) (s : List β) : List (α × β) :=
  r.flatMap (fun a => (s.filter (on a)).map (fun b => (a, b)))

variable {on : α → β → Bool} {r : List α} {s : List β}

@[simp] lemma mem_join {a : α} {b : β} : (a, b) ∈ join on r s ↔ a ∈ r ∧ b ∈ s ∧ on a b := by
  simp [join]

lemma nodup_join (hr : r.Nodup) (hs : s.Nodup) : (join on r s).Nodup := by
  apply List.nodup_flatMap.mpr
  constructor
  · intro a _
    exact (hs.filter _).map (fun b c h => (Prod.mk.inj h).2)
  · apply hr.imp
    intro a a' hne
    rw [Function.onFun, List.disjoint_left]
    intro p hp hp'
    obtain ⟨b, -, rfl⟩ := List.mem_map.mp hp
    obtain ⟨b', -, heq⟩ := List.mem_map.mp hp'
    exact hne (Prod.mk.inj heq).1.symm

end Join

end Tabular
