import Mathlib.Data.List.Nodup
import Mathlib.Data.List.Perm.Basic
import TrafficRouter.Toml.Document

/-!
# Each key once

A table that has each of its keys once is a map: what it says of a key does not depend on the order
of its entries. Every table of a document is such a table, however deep it lies, since a line either
defines a key that is not there yet or changes the table of one that is.

* `get?_replace`, `get?_erase_ne`, `get?_perm`: what a table says of a key after a change;
* `Value.KeysOnce`, `Entries.KeysOnce`: each key once, at every depth;
* `Keeps`, `keeps_updateAt`, `keeps_define`: the changes that lines make keep it;
* `keysOnce_of_read`: values between brackets and braces have it;
* `keysOnce_of_parse?`: so has a document.

NOT here: which keys mean something (`Proofs.Settings.Reading`).
-/

namespace TrafficRouter.Toml

/-! ## 1. What a table says of a key -/

namespace Entries

/-- The keys of a table. -/
def keys (t : Entries) : List String := t.map Prod.fst

theorem get?_eq_none_iff {t : Entries} {key : String} : t.get? key = none ↔ key ∉ t.keys := by
  unfold get? keys
  simp only [List.lookup_eq_none_iff, bne_iff_ne, List.mem_map, not_exists, not_and]
  exact forall₂_congr fun e _ => ne_comm

theorem mem_of_get? {t : Entries} {key : String} {value : Value} (h : t.get? key = some value) :
    (key, value) ∈ t := by
  obtain ⟨front, back, rfl, -⟩ := List.lookup_eq_some_iff.mp h
  exact List.mem_append_right _ List.mem_cons_self

theorem get?_append (front back : Entries) (key : String) :
    get? key (front ++ back) = (front.get? key).or (back.get? key) :=
  List.lookup_append

theorem get?_cons_self (key : String) (value : Value) (t : Entries) :
    get? key ((key, value) :: t) = some value :=
  List.lookup_cons_self

theorem get?_cons_ne {key key' : String} (h : key' ≠ key) (value : Value) (t : Entries) :
    get? key' ((key, value) :: t) = t.get? key' := by
  unfold get?
  rw [List.lookup_cons, beq_false_of_ne h]

theorem get?_add_self {t : Entries} {key : String} (h : t.get? key = none) (value : Value) :
    (t.add key value).get? key = some value := by
  unfold add
  rw [get?_append, h, get?_cons_self]
  rfl

theorem get?_add_ne {key key' : String} (h : key' ≠ key) (value : Value) (t : Entries) :
    (t.add key value).get? key' = t.get? key' := by
  unfold add
  rw [get?_append, get?_cons_ne h]
  exact Option.or_none

/-- **A replaced value is what the table says of its key**, and of no other key. -/
theorem get?_replace (key : String) (value : Value) (t : Entries) (key' : String) :
    (t.replace key value).get? key' =
      if key' = key then (t.get? key').map fun _ => value else t.get? key' := by
  induction t with
  | nil => split <;> rfl
  | cons e t ih =>
    obtain ⟨key'', old⟩ := e
    have hcons : replace key value ((key'', old) :: t) =
        (if key'' = key then (key, value) else (key'', old)) :: replace key value t := rfl
    rw [hcons]
    by_cases hkey : key'' = key
    · subst hkey
      rw [if_pos rfl]
      by_cases h : key' = key''
      · subst h
        rw [if_pos rfl, get?_cons_self, get?_cons_self]
        rfl
      · rw [get?_cons_ne h, ih, if_neg h, if_neg h, get?_cons_ne h]
    · rw [if_neg hkey]
      by_cases h : key' = key''
      · subst h
        rw [get?_cons_self, get?_cons_self, if_neg hkey]
      · rw [get?_cons_ne h, get?_cons_ne h, ih]

theorem get?_replace_self {t : Entries} {key : String} {old : Value} (h : t.get? key = some old)
    (value : Value) : (t.replace key value).get? key = some value := by
  rw [get?_replace, if_pos rfl, h]
  rfl

theorem get?_replace_ne {key key' : String} (h : key' ≠ key) (value : Value) (t : Entries) :
    (t.replace key value).get? key' = t.get? key' := by
  rw [get?_replace, if_neg h]

/-- The entries without a key. -/
def erase (key : String) (t : Entries) : Entries := t.filter (·.1 ≠ key)

theorem get?_erase_self (key : String) (t : Entries) : (t.erase key).get? key = none := by
  rw [get?_eq_none_iff]
  intro hmem
  obtain ⟨e, he, hkey⟩ := List.mem_map.mp hmem
  exact of_decide_eq_true (List.mem_filter.mp he).2 hkey

theorem get?_erase_ne {key key' : String} (h : key' ≠ key) (t : Entries) :
    (t.erase key).get? key' = t.get? key' := by
  induction t with
  | nil => rfl
  | cons e t ih =>
    obtain ⟨key'', value⟩ := e
    have hcons : erase key ((key'', value) :: t) =
        if key'' ≠ key then (key'', value) :: erase key t else erase key t := by
      unfold erase
      rw [List.filter_cons]
      simp only [decide_eq_true_eq]
    rw [hcons]
    by_cases hkey : key'' = key
    · subst hkey
      rw [if_neg (not_not_intro rfl), ih, get?_cons_ne h]
    · rw [if_pos hkey]
      by_cases h' : key' = key''
      · subst h'
        rw [get?_cons_self, get?_cons_self]
      · rw [get?_cons_ne h', get?_cons_ne h', ih]

/-- What is there once is what the table says. -/
theorem get?_eq_some_iff {t : Entries} (hkeys : t.keys.Nodup) {key : String} {value : Value} :
    t.get? key = some value ↔ (key, value) ∈ t := by
  refine ⟨mem_of_get?, fun hmem => ?_⟩
  obtain ⟨front, back, rfl⟩ := List.append_of_mem hmem
  have hfront : key ∉ keys front := fun hin => by
    have hsplit : keys (front ++ (key, value) :: back) = keys front ++ key :: keys back := by
      simp [keys]
    rw [hsplit] at hkeys
    exact (List.nodup_append.mp hkeys).2.2 _ hin _ List.mem_cons_self rfl
  rw [get?_append, get?_eq_none_iff.mpr hfront, get?_cons_self]
  rfl

/-- **The order of the entries says nothing.** -/
theorem get?_perm {t t' : Entries} (hkeys : t.keys.Nodup) (h : t.Perm t') (key : String) :
    t'.get? key = t.get? key := by
  have hkeys' : t'.keys.Nodup := (h.map Prod.fst).nodup_iff.mp hkeys
  refine Option.ext fun value => ?_
  rw [get?_eq_some_iff hkeys, get?_eq_some_iff hkeys', h.mem_iff]

theorem keys_add (t : Entries) (key : String) (value : Value) :
    (t.add key value).keys = t.keys ++ [key] := by
  simp [add, keys]

theorem keys_replace (t : Entries) (key : String) (value : Value) :
    (t.replace key value).keys = t.keys := by
  unfold replace keys
  rw [List.map_map]
  refine List.map_congr_left fun e _ => ?_
  show (if e.1 = key then (key, value) else e).1 = e.1
  split
  · next h => exact h.symm
  · rfl

end Entries

/-! ## 2. Each key once -/

/-- **Each key once**, in every table of a value. -/
inductive Value.KeysOnce : Value → Prop where
  | string (text : String) : KeysOnce (.string text)
  | integer (n : Int) : KeysOnce (.integer n)
  | float : KeysOnce .float
  | boolean (b : Bool) : KeysOnce (.boolean b)
  | datetime : KeysOnce .datetime
  | array {elements : List Value} (h : ∀ v ∈ elements, KeysOnce v) : KeysOnce (.array elements)
  | table {origin : Origin} {t : List (String × Value)} (hkeys : (t.map Prod.fst).Nodup)
      (h : ∀ e ∈ t, KeysOnce e.2) : KeysOnce (.table origin t)
  | tables {elements : List (List (String × Value))}
      (hkeys : ∀ t ∈ elements, (t.map Prod.fst).Nodup)
      (h : ∀ t ∈ elements, ∀ e ∈ t, KeysOnce e.2) : KeysOnce (.tables elements)

/-- **Each key once**, in a table and in every table within it. -/
structure Entries.KeysOnce (t : Entries) : Prop where
  keys : t.keys.Nodup
  values : ∀ e ∈ t, e.2.KeysOnce

theorem Value.keysOnce_table_iff {origin : Origin} {t : Entries} :
    Value.KeysOnce (.table origin t) ↔ t.KeysOnce := by
  constructor
  · intro h
    cases h with
    | table hkeys h => exact ⟨hkeys, h⟩
  · exact fun h => .table h.keys h.values

theorem Value.keysOnce_tables_iff {elements : List Entries} :
    Value.KeysOnce (.tables elements) ↔ ∀ t ∈ elements, t.KeysOnce := by
  constructor
  · intro h
    cases h with
    | tables hkeys h => exact fun t ht => ⟨hkeys t ht, h t ht⟩
  · exact fun h => .tables (fun t ht => (h t ht).keys) fun t ht => (h t ht).values

namespace Entries

theorem keysOnce_nil : KeysOnce [] := ⟨List.nodup_nil, fun _ he => nomatch he⟩

namespace KeysOnce

variable {t : Entries}

theorem get? (h : t.KeysOnce) {key : String} {value : Value} (hget : t.get? key = some value) :
    value.KeysOnce :=
  h.values _ (mem_of_get? hget)

theorem add (h : t.KeysOnce) {key : String} {value : Value} (hnew : t.get? key = none)
    (hvalue : value.KeysOnce) : (t.add key value).KeysOnce := by
  constructor
  · rw [keys_add]
    exact h.keys.append (List.nodup_singleton key)
      (List.disjoint_singleton.mpr (get?_eq_none_iff.mp hnew))
  · exact List.forall_mem_append.mpr ⟨h.values, List.forall_mem_singleton.mpr hvalue⟩

theorem replace (h : t.KeysOnce) (key : String) {value : Value} (hvalue : value.KeysOnce) :
    (t.replace key value).KeysOnce := by
  constructor
  · rw [keys_replace]
    exact h.keys
  · intro e he
    obtain ⟨e', he', rfl⟩ := List.mem_map.mp he
    show (if e'.1 = key then (key, value) else e').2.KeysOnce
    split
    · exact hvalue
    · exact h.values e' he'

end KeysOnce

/-! ## 3. What lines change -/

/-- What a change of one table is to keep. -/
def Keeps (change : Origin → Entries → Option Entries) : Prop :=
  ∀ origin t t', t.KeysOnce → change origin t = some t' → t'.KeysOnce

/-- **A change of a table within a table** keeps what the change itself keeps. The induction is on
the path. -/
theorem keeps_updateAt {dotted : Bool} {change : Origin → Entries → Option Entries}
    (hchange : Keeps change) (path : List String) : Keeps (updateAt dotted change path) := by
  induction path with
  | nil => exact hchange
  | cons key path ih =>
    intro origin t t' h heq
    simp only [updateAt] at heq
    split at heq
    · next hnew =>
      obtain ⟨inner, hinner, rfl⟩ := Option.map_eq_some_iff.mp heq
      exact h.add hnew (Value.keysOnce_table_iff.mpr (ih _ _ _ keysOnce_nil hinner))
    · next inner hget =>
      split at heq
      · cases heq
      · obtain ⟨inner', hinner, rfl⟩ := Option.map_eq_some_iff.mp heq
        have hold := Value.keysOnce_table_iff.mp (h.get? hget)
        exact h.replace key (Value.keysOnce_table_iff.mpr (ih _ _ _ hold hinner))
    · next elements hget =>
      have hold := Value.keysOnce_tables_iff.mp (h.get? hget)
      split at heq
      · cases heq
      · next element hlast =>
        obtain ⟨element', helement, rfl⟩ := Option.map_eq_some_iff.mp heq
        have hnew := ih _ _ _ (hold _ (List.mem_of_getLast? hlast)) helement
        have hfront : ∀ t ∈ elements.dropLast, Entries.KeysOnce t :=
          fun t ht => hold t (List.dropLast_subset elements ht)
        exact h.replace key (Value.keysOnce_tables_iff.mpr
          (List.forall_mem_append.mpr ⟨hfront, List.forall_mem_singleton.mpr hnew⟩))
    · cases heq

theorem keeps_defineKey (reached : Bool) (key : String) {value : Value} (hvalue : value.KeysOnce) :
    Keeps (defineKey reached key value) := by
  intro origin t t' h heq
  unfold defineKey at heq
  split at heq
  · next hnew =>
    obtain rfl := Option.some.inj heq
    exact h.add (Option.isNone_iff_eq_none.mp hnew.2) hvalue
  · cases heq

theorem keeps_openTable (key : String) : Keeps (openTable key) := by
  intro origin t t' h heq
  unfold openTable at heq
  split at heq
  · next hnew =>
    obtain rfl := Option.some.inj heq
    exact h.add hnew (Value.keysOnce_table_iff.mpr keysOnce_nil)
  · next inner hget =>
    obtain rfl := Option.some.inj heq
    have hold := Value.keysOnce_table_iff.mp (h.get? hget)
    exact h.replace key (Value.keysOnce_table_iff.mpr hold)
  · cases heq

theorem keeps_openElement (key : String) : Keeps (openElement key) := by
  intro origin t t' h heq
  unfold openElement at heq
  split at heq
  · next hnew =>
    obtain rfl := Option.some.inj heq
    exact h.add hnew
      (Value.keysOnce_tables_iff.mpr (List.forall_mem_singleton.mpr keysOnce_nil))
  · next elements hget =>
    obtain rfl := Option.some.inj heq
    have hold := Value.keysOnce_tables_iff.mp (h.get? hget)
    exact h.replace key (Value.keysOnce_tables_iff.mpr
      (List.forall_mem_append.mpr ⟨hold, List.forall_mem_singleton.mpr keysOnce_nil⟩))
  · cases heq

/-- **A definition** with a dotted key. -/
theorem keeps_define (target : KeyPath) {value : Value} (hvalue : value.KeysOnce) :
    Keeps (define target value) :=
  fun origin => keeps_updateAt (keeps_defineKey _ target.key hvalue) target.path origin

end Entries

/-! ## 4. What is read -/

/-- What the readers of values find below some fuel has each key once. -/
structure ReadsOnce (fuel : Nat) : Prop where
  value : ∀ {depth text v rest}, readValue fuel depth text = some (v, rest) → v.KeysOnce
  elements : ∀ {depth elements text v rest}, (∀ e ∈ elements, Value.KeysOnce e) →
    readElements fuel depth elements text = some (v, rest) → v.KeysOnce
  pairs : ∀ {depth} {t : Entries} {text v rest}, t.KeysOnce →
    readPairs fuel depth t text = some (v, rest) → v.KeysOnce

theorem keysOnce_of_readNumber {text : List Char} {v : Value} {rest : List Char}
    (h : readNumber text = some (v, rest)) : v.KeysOnce := by
  unfold readNumber at h
  split at h
  · cases h
    exact .datetime
  · cases h
  · split at h
    · cases h
      exact .float
    · cases h
    · split at h
      · cases h
        exact .integer _
      · cases h

theorem keysOnce_of_readValue {fuel depth : Nat} {text : List Char} {v : Value}
    {rest : List Char} (ih : ReadsOnce fuel)
    (h : readValue (fuel + 1) depth text = some (v, rest)) : v.KeysOnce := by
  cases text with
  | nil => simp [readValue] at h
  | cons c text =>
    rw [readValue] at h
    split at h
    · obtain ⟨found, -, hfound⟩ := Option.map_eq_some_iff.mp h
      cases hfound
      exact .string _
    split at h
    · split at h
      · cases h
      · exact ih.elements (List.forall_mem_nil _) h
    split at h
    · split at h
      · cases h
      · split at h
        · cases h
          exact Value.keysOnce_table_iff.mpr Entries.keysOnce_nil
        · exact ih.pairs Entries.keysOnce_nil h
    split at h
    · exact keysOnce_of_readNumber h
    split at h <;> cases h
    · exact .boolean true
    · exact .boolean false
    · exact .float
    · exact .float

theorem keysOnce_of_readElements {fuel depth : Nat} {elements : List Value} {text : List Char}
    {v : Value} {rest : List Char} (ih : ReadsOnce fuel) (helements : ∀ e ∈ elements, e.KeysOnce)
    (h : readElements (fuel + 1) depth elements text = some (v, rest)) : v.KeysOnce := by
  have hreverse {elements : List Value} (helements : ∀ e ∈ elements, e.KeysOnce) :
      Value.KeysOnce (.array elements.reverse) :=
    .array fun e he => helements e (List.mem_reverse.mp he)
  rw [readElements] at h
  split at h
  · cases h
  · cases h
    exact hreverse helements
  · split at h
    · cases h
    · next value rest' hvalue =>
      have hmore : ∀ e ∈ value :: elements, e.KeysOnce :=
        List.forall_mem_cons.mpr ⟨ih.value hvalue, helements⟩
      split at h
      · exact ih.elements hmore h
      · cases h
        exact hreverse hmore
      · cases h

theorem keysOnce_of_readPairs {fuel depth : Nat} {t : Entries} {text : List Char} {v : Value}
    {rest : List Char} (ih : ReadsOnce fuel) (ht : t.KeysOnce)
    (h : readPairs (fuel + 1) depth t text = some (v, rest)) : v.KeysOnce := by
  rw [readPairs] at h
  split at h
  · cases h
  split at h
  · cases h
  split at h
  · cases h
  next value rest' hvalue =>
  split at h
  · cases h
  next t' hdefine =>
  have ht' : t'.KeysOnce := Entries.keeps_define _ (ih.value hvalue) _ _ _ ht hdefine
  split at h
  · exact ih.pairs ht' h
  · cases h
    exact Value.keysOnce_table_iff.mpr ht'
  · cases h

/-- **Values have each key once.** The three readers call each other with less fuel. -/
theorem keysOnce_of_read (fuel : Nat) : ReadsOnce fuel := by
  induction fuel with
  | zero =>
    exact ⟨fun h => by simp [readValue] at h, fun _ h => by simp [readElements] at h,
      fun _ h => by simp [readPairs] at h⟩
  | succ fuel ih =>
    exact ⟨keysOnce_of_readValue ih, keysOnce_of_readElements ih, keysOnce_of_readPairs ih⟩

theorem Draft.keysOnce_of_update {d d' : Draft} {change : Origin → Entries → Option Entries}
    {path : List String} {draft : Entries → Draft} (h : d.entries.KeysOnce)
    (hchange : Entries.Keeps change) (hentries : ∀ t, (draft t).entries = t)
    (heq : (d.entries.updateAt false change path .header).map draft = some d') :
    d'.entries.KeysOnce := by
  obtain ⟨t, ht, rfl⟩ := Option.map_eq_some_iff.mp heq
  rw [hentries]
  exact Entries.keeps_updateAt hchange path _ _ _ h ht

/-- **A line keeps each key once**: it defines something, opens something, or says nothing. -/
theorem keysOnce_of_readLine {d d' : Draft} {text rest : List Char} (h : d.entries.KeysOnce)
    (hline : readLine d text = some (d', rest)) : d'.entries.KeysOnce := by
  unfold readLine at hline
  split at hline
  · obtain ⟨_, -, heq⟩ := Option.map_eq_some_iff.mp hline
    cases heq
    exact h
  · cases hline
    exact h
  · obtain ⟨_, -, heq⟩ := Option.map_eq_some_iff.mp hline
    cases heq
    exact h
  · split at hline
    · simp only [Option.bind_eq_bind, Option.bind_eq_some_iff] at hline
      obtain ⟨opened, hopen, _, -, heq⟩ := hline
      cases heq
      exact Draft.keysOnce_of_update h (Entries.keeps_openElement _) (fun _ => rfl) hopen
    · cases hline
  · split at hline
    · simp only [Option.bind_eq_bind, Option.bind_eq_some_iff] at hline
      obtain ⟨opened, hopen, _, -, heq⟩ := hline
      cases heq
      exact Draft.keysOnce_of_update h (Entries.keeps_openTable _) (fun _ => rfl) hopen
    · cases hline
  · simp only [Option.bind_eq_bind, Option.bind_eq_some_iff] at hline
    obtain ⟨⟨target, _⟩, -, _, -, read, hvalue, defined, hdefine, _, -, heq⟩ := hline
    cases heq
    have hkeeps := Entries.keeps_define target ((keysOnce_of_read _).value hvalue)
    exact Draft.keysOnce_of_update h hkeeps (fun _ => rfl) hdefine

/-- **Lines keep each key once.** -/
theorem keysOnce_of_readLines {fuel : Nat} {d d' : Draft} {text : List Char}
    (h : d.entries.KeysOnce) (hlines : readLines fuel d text = some d') : d'.entries.KeysOnce := by
  induction fuel generalizing d text with
  | zero => cases hlines
  | succ fuel ih =>
    rw [readLines] at hlines
    split at hlines
    · cases hlines
      exact h
    · split at hlines
      · next hline => exact ih (keysOnce_of_readLine h hline) hlines
      · cases hlines

/-- **A document has each key once**, in every table. -/
theorem keysOnce_of_parse? {text : List Char} {t : Entries} (h : parse? text = some t) :
    t.KeysOnce := by
  obtain ⟨d, hlines, rfl⟩ := Option.map_eq_some_iff.mp h
  exact keysOnce_of_readLines Entries.keysOnce_nil hlines

end TrafficRouter.Toml
