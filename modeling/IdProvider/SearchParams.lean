/-
The parameters of a URL as a list that is changed by name, and URLs as texts
that keep their query apart from the rest.
-/
import IdProvider.FormUrlencoded

namespace SearchParams

open FormUrlencoded

/-! ## Lists of parameters -/

def get (name : List Char) (pairs : List Pair) : Option (List Char) :=
  (pairs.find? fun pair => pair.1 == name).map Prod.snd

/-- The first parameter of the name gets the value, and further ones go. -/
def set (name value : List Char) : List Pair → List Pair
  | [] => [(name, value)]
  | pair :: pairs =>
      if pair.1 = name then
        (name, value) :: pairs.filter fun other => other.1 ≠ name
      else pair :: set name value pairs

/-- One parameter after the other. -/
def setAll (changes pairs : List Pair) : List Pair :=
  changes.foldl (fun pairs change => set change.1 change.2 pairs) pairs

section Lists

variable {name other : List Char}

theorem filter_set_self (value : List Char) (pairs : List Pair) :
    (set name value pairs).filter (fun pair => pair.1 = name) =
      [(name, value)] := by
  induction pairs with
  | nil => simp [set]
  | cons pair pairs ih =>
      rw [set]
      split
      case isTrue => simp [List.filter_filter]
      case isFalse hname =>
        rw [List.filter_cons_of_neg (by simpa using hname)]
        exact ih

/-- The other parameters stay as and where they are. -/
theorem filter_set {keeps : List Char → Bool} (value : List Char)
    (pairs : List Pair) (hname : keeps name = false) :
    (set name value pairs).filter (fun pair => keeps pair.1) =
      pairs.filter fun pair => keeps pair.1 := by
  have hdrop : ∀ others : List Pair,
      (others.filter fun pair => pair.1 ≠ name).filter
          (fun pair => keeps pair.1) =
        others.filter fun pair => keeps pair.1 := by
    intro others
    rw [List.filter_filter]
    apply List.filter_congr
    intro pair _
    by_cases hpair : pair.1 = name
    · simp [hpair, hname]
    · simp [hpair]
  induction pairs with
  | nil => simp [set, hname]
  | cons pair pairs ih =>
      rw [set]
      split
      case isTrue hpair =>
        rw [List.filter_cons_of_neg (by simp [hname]), hdrop,
          List.filter_cons_of_neg (by simp [hpair, hname])]
      case isFalse => simp only [List.filter_cons, ih]

theorem get_eq (pairs : List Pair) :
    get name pairs =
      ((pairs.filter fun pair => pair.1 = name).head?).map Prod.snd := by
  rw [get, List.head?_filter]
  congr 2
  funext pair
  by_cases hpair : pair.1 = name
  · simp [hpair]
  · simp [hpair]

theorem filter_setAll {p : List Char → Bool} {changes : List Pair}
    (pairs : List Pair) (hnames : ∀ change ∈ changes, p change.1 = false) :
    (setAll changes pairs).filter (fun pair => p pair.1) =
      pairs.filter fun pair => p pair.1 := by
  induction changes generalizing pairs with
  | nil => rfl
  | cons change changes ih =>
      rw [List.forall_mem_cons] at hnames
      rw [setAll, List.foldl_cons, ← setAll, ih _ hnames.2,
        filter_set _ _ hnames.1]

/-- Parameters of different names are all there, once. -/
theorem filter_setAll_mem {changes : List Pair} (pairs : List Pair)
    (hdistinct : (changes.map Prod.fst).Nodup) :
    ∀ change ∈ changes,
      (setAll changes pairs).filter (fun pair => pair.1 = change.1) =
        [change] := by
  induction changes generalizing pairs with
  | nil => simp
  | cons first changes ih =>
      rw [List.map_cons, List.nodup_cons] at hdistinct
      intro change hchange
      rw [setAll, List.foldl_cons, ← setAll]
      rcases List.mem_cons.mp hchange with rfl | hrest
      · have hothers : ∀ other ∈ changes,
            decide (other.1 = change.1) = false := by
          intro other hother
          rw [decide_eq_false_iff_not]
          intro hsame
          exact hdistinct.1 (List.mem_map.mpr ⟨other, hother, hsame⟩)
        exact (filter_setAll (p := fun key => key = change.1) _
          hothers).trans (filter_set_self _ _)
      · exact ih _ hdistinct.2 change hrest

end Lists

/-! ## As texts -/

def textPair (name value : String) : Pair := (name.toList, value.toList)

/-- `params.get(name)`. -/
def getText (name : String) (pairs : List Pair) : Option String :=
  (get name.toList pairs).map String.ofList

theorem getText_cons (name key : String) (value : List Char)
    (pairs : List Pair) :
    getText name ((key.toList, value) :: pairs) =
      if key = name then some (String.ofList value)
      else getText name pairs := by
  unfold getText get
  by_cases hkey : key = name
  · rw [if_pos hkey, List.find?_cons_of_pos (by simp [hkey]), Option.map_some,
      Option.map_some]
  · rw [if_neg hkey, List.find?_cons_of_neg]
    rw [beq_iff_eq, String.toList_inj]
    exact hkey

theorem getText_nil (name : String) : getText name [] = none := rfl

theorem getText_map (fields : List (String × String)) (name : String) :
    getText name (fields.map fun field => textPair field.1 field.2) =
      fields.lookup name := by
  induction fields with
  | nil => rfl
  | cons field fields ih =>
      rw [List.map_cons, textPair, getText_cons, ih, List.lookup_cons]
      by_cases hname : name = field.1
      · simp [hname]
      · have hbeq : (name == field.1) = false := beq_eq_false_iff_ne.mpr hname
        rw [if_neg (Ne.symm hname), hbeq]

/-! ## URLs -/

/-- The bytes of a URL: before the query, the query, and the fragment. -/
structure Url where
  base : List UInt8
  query : List UInt8
  fragment : Option (List UInt8)
  question_not_mem : 0x3F ∉ base
  hash_not_mem : 0x23 ∉ base ++ query

namespace Url

variable (url : Url)

def toBytes : List UInt8 :=
  url.base ++ ((if url.query = [] then [] else 0x3F :: url.query) ++
    match url.fragment with
    | none => []
    | some fragment => 0x23 :: fragment)

def searchParams : List Pair := parse url.query

/-- The URL after changes of its parameters. -/
def withParams (changes : List Pair) : Url where
  base := url.base
  query := serialize (setAll changes url.searchParams)
  fragment := url.fragment
  question_not_mem := url.question_not_mem
  hash_not_mem := by
    have hbase := url.hash_not_mem
    rw [List.mem_append, not_or] at hbase ⊢
    exact ⟨hbase.1, hash_not_mem_serialize _⟩

end Url

/-- The query in the bytes of a URL: a server gets all before the fragment. -/
def queryOf (bytes : List UInt8) : List UInt8 :=
  ((bytes.takeWhile (· ≠ 0x23)).dropWhile (· ≠ 0x3F)).drop 1

/-- Where a request for the URL goes. -/
def addressOf (bytes : List UInt8) : List UInt8 :=
  (bytes.takeWhile (· ≠ 0x23)).takeWhile (· ≠ 0x3F)

theorem takeWhile_toBytes (url : Url) : url.toBytes.takeWhile (· ≠ 0x23) =
    url.base ++ if url.query = [] then [] else 0x3F :: url.query := by
  have hfree := url.hash_not_mem
  rw [List.mem_append, not_or] at hfree
  have hbytes : ∀ byte ∈ url.base ++
      (if url.query = [] then [] else 0x3F :: url.query),
      decide (byte ≠ 0x23) = true := by
    intro byte hbyte
    rw [decide_eq_true_eq]
    rintro rfl
    rcases List.mem_append.mp hbyte with hbase | hquery
    · exact hfree.1 hbase
    · split at hquery
      · cases hquery
      · rcases List.mem_cons.mp hquery with hmark | hmem
        · exact absurd hmark (by decide)
        · exact hfree.2 hmem
  rw [Url.toBytes, ← List.append_assoc, List.takeWhile_append_of_pos hbytes]
  cases url.fragment with
  | none => simp
  | some fragment => simp

theorem base_no_question (url : Url) :
    ∀ byte ∈ url.base, decide (byte ≠ 0x3F) = true := by
  intro byte hbyte
  rw [decide_eq_true_eq]
  rintro rfl
  exact url.question_not_mem hbyte

theorem addressOf_toBytes (url : Url) : addressOf url.toBytes = url.base := by
  rw [addressOf, takeWhile_toBytes,
    List.takeWhile_append_of_pos (base_no_question url)]
  split
  · simp
  · simp

theorem queryOf_toBytes (url : Url) : queryOf url.toBytes = url.query := by
  rw [queryOf, takeWhile_toBytes,
    List.dropWhile_append_of_pos (base_no_question url)]
  split
  case isTrue hempty => rw [hempty]; rfl
  case isFalse => simp

/-- The parameters that a server reads from a URL with changes: each change
once, and what the URL had under other names. -/
theorem parse_withParams (url : Url) {changes : List Pair}
    (hdistinct : (changes.map Prod.fst).Nodup) :
    let read := parse (queryOf (url.withParams changes).toBytes)
    (∀ change ∈ changes,
        (read.filter fun pair => pair.1 = change.1) = [change]) ∧
      (read.filter fun pair => pair.1 ∉ changes.map Prod.fst) =
        url.searchParams.filter fun pair => pair.1 ∉ changes.map Prod.fst := by
  have hread : parse (queryOf (url.withParams changes).toBytes) =
      setAll changes url.searchParams := by
    rw [queryOf_toBytes, Url.withParams, parse_serialize]
  dsimp only
  rw [hread]
  refine ⟨filter_setAll_mem _ hdistinct, ?_⟩
  apply filter_setAll (p := fun key => key ∉ changes.map Prod.fst)
  intro change hchange
  rw [decide_eq_false_iff_not, not_not]
  exact List.mem_map_of_mem hchange

end SearchParams
