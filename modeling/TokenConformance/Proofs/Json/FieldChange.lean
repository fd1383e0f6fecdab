import Mathlib.Data.List.Forall2
import TokenConformance.Json.Record

/-! # One field with another value

Two values that differ in one declared field give records that differ in this field, whether they
are written as objects or as arrays of their fields. Two objects that differ in a field that is not
declared give the same record.

* `Carries`: where the one reading succeeds, so does the other one, with a related result.
* `FieldReplaced`: a value, and the same with another value in one declared field.
* `Record.Replaced`, `record?_of_replaced`: what this means for the record.
* `tagged?_of_replaced`: a record with a kind keeps its kind.
* `isReadable_of_replaced`: literals elsewhere are what they have been.
* `UndeclaredChanged`: an object, and the same with one more field or with another value in one.
* `record?_of_undeclared`, `tagged?_of_undeclared`: what this means for a record without the field.
-/

namespace TokenConformance

/-! ## Readings that succeed together -/

/-- Where the one has a value, the other one has a related value. -/
def Carries {α β : Type} (Q : α → β → Prop) (x : Option α) (y : Option β) : Prop :=
  ∀ a, x = some a → ∃ b, y = some b ∧ Q a b

namespace Carries

variable {α β γ δ : Type} {Q : α → β → Prop} {P : γ → δ → Prop}

theorem none {y : Option β} : Carries Q none y := nofun

theorem some {a : α} {b : β} (h : Q a b) : Carries Q (some a) (some b) := by
  rintro _ ⟨⟩
  exact ⟨b, rfl, h⟩

theorem of_eq {x y : Option α} (h : y = x) : Carries Eq x y :=
  fun a ha => ⟨a, h.trans ha, rfl⟩

theorem mono {R : α → β → Prop} {x : Option α} {y : Option β} (h : Carries Q x y)
    (hQR : ∀ a b, Q a b → R a b) : Carries R x y := by
  intro a ha
  obtain ⟨b, hb, hab⟩ := h a ha
  exact ⟨b, hb, hQR a b hab⟩

/-- What has been read may be kept in mind. -/
theorem with_eq {x : Option α} {y : Option β} (h : Carries Q x y) :
    Carries (fun a b => Q a b ∧ x = Option.some a ∧ y = Option.some b) x y := by
  intro a ha
  obtain ⟨b, hb, hab⟩ := h a ha
  exact ⟨b, hb, hab, ha, hb⟩

theorem bind {x : Option α} {y : Option β} {f : α → Option γ} {g : β → Option δ}
    (h : Carries Q x y) (hfg : ∀ a b, Q a b → Carries P (f a) (g b)) :
    Carries P (x.bind f) (y.bind g) := by
  intro c hc
  obtain ⟨a, ha, hac⟩ := Option.bind_eq_some_iff.1 hc
  obtain ⟨b, rfl, hab⟩ := h a ha
  exact hfg a b hab c hac

/-- What is read in the same way may be put aside. -/
theorem bind_same {x : Option α} {f : α → Option γ} {g : α → Option δ}
    (hfg : ∀ a, Carries P (f a) (g a)) : Carries P (x.bind f) (x.bind g) :=
  (of_eq rfl).bind fun a _ hab => hab ▸ hfg a

theorem map_iff {x : Option α} {y : Option β} {f : α → γ} {g : β → δ} :
    Carries P (x.map f) (y.map g) ↔ Carries (fun a b => P (f a) (g b)) x y := by
  constructor
  · rintro h a rfl
    obtain ⟨d, hd, had⟩ := h (f a) rfl
    obtain ⟨b, rfl, rfl⟩ := Option.map_eq_some_iff.1 hd
    exact ⟨b, rfl, had⟩
  · intro h c hc
    obtain ⟨a, rfl, rfl⟩ := Option.map_eq_some_iff.1 hc
    obtain ⟨b, rfl, hab⟩ := h a rfl
    exact ⟨g b, rfl, hab⟩

end Carries

/-! ## Lists in which one element is another -/

/-- Two lists that differ in the element with a number. -/
def ReplacedAt {α : Type} (Q : α → α → Prop) (i : Nat) (l l' : List α) : Prop :=
  ∃ before a b after, before.length = i ∧ Q a b ∧ l = before ++ a :: after ∧
    l' = before ++ b :: after

namespace Json

theorem mapM_append_cons_eq_some {α β : Type} {read : α → Option β} {before after : List α}
    {a : α} {l : List β} :
    (before ++ a :: after).mapM read = some l ↔
      ∃ bs b cs, before.mapM read = some bs ∧ read a = some b ∧ after.mapM read = some cs ∧
        l = bs ++ b :: cs := by
  simp only [List.mapM_append, List.mapM_cons, Option.bind_eq_bind, Option.pure_def,
    Option.bind_eq_some_iff, Option.some.injEq]
  constructor
  · rintro ⟨bs, hbs, _, ⟨b, hb, cs, hcs, rfl⟩, rfl⟩
    exact ⟨bs, b, cs, hbs, hb, hcs, rfl⟩
  · rintro ⟨bs, b, cs, hbs, hb, hcs, rfl⟩
    exact ⟨bs, hbs, b :: cs, ⟨b, hb, cs, hcs, rfl⟩, rfl⟩

theorem forall₂_of_mapM_eq_some {α β : Type} {read : α → Option β} {l : List α} {m : List β}
    (h : l.mapM read = some m) : List.Forall₂ (fun a b => read a = some b) l m := by
  induction l generalizing m with
  | nil => cases h; exact .nil
  | cons a l ih =>
    simp only [List.mapM_cons, Option.bind_eq_bind, Option.pure_def, Option.bind_eq_some_iff,
      Option.some.injEq] at h
    obtain ⟨b, hb, bs, hbs, rfl⟩ := h
    exact .cons hb (ih hbs)

/-- Elements that keep their keys when they are read. -/
theorem map_eq_of_mapM_eq_some {α β κ : Type} {read : α → Option β} {key : α → κ} {key' : β → κ}
    (hread : ∀ a b, read a = some b → key' b = key a) {l : List α} {m : List β}
    (h : l.mapM read = some m) : m.map key' = l.map key := by
  have hall := forall₂_of_mapM_eq_some h
  clear h
  induction hall with
  | nil => rfl
  | cons hab _ ih => rw [List.map_cons, List.map_cons, hread _ _ hab, ih]

/-- In a list one element may be another one. -/
theorem carries_mapM {α β : Type} {read : α → Option β} {Q : β → β → Prop} {v v' : α}
    (h : Carries Q (read v) (read v')) (before after : List α) :
    Carries (ReplacedAt Q before.length) ((before ++ v :: after).mapM read)
      ((before ++ v' :: after).mapM read) := by
  intro l hl
  obtain ⟨bs, b, cs, hbs, hb, hcs, rfl⟩ := mapM_append_cons_eq_some.1 hl
  obtain ⟨b', hb', hbb'⟩ := h b hb
  exact ⟨bs ++ b' :: cs, mapM_append_cons_eq_some.2 ⟨bs, b', cs, hbs, hb', hcs, rfl⟩,
    bs, b, b', cs, (forall₂_of_mapM_eq_some hbs).length_eq.symm, hbb', rfl, rfl⟩

theorem nullable?_of_ne {α : Type} {read : Json → Option α} {j : Json} (h : j ≠ .null) :
    j.nullable? read = (read j).map some := by
  unfold nullable?
  split
  · exact absurd rfl h
  · rfl

end Json

/-! ## Records -/

/-- Two records that differ in the value of one field. -/
structure Record.Replaced (name : String) (v v' : Json) (r r' : Record) : Prop where
  positional : r'.positional = r.positional
  find?_self : r.find? name = some v
  find?_eq : ∀ other, r'.find? other = if other = name then some v' else r.find? other

namespace Record.Replaced

variable {name other : String} {v v' : Json} {r r' : Record} {α : Type} {read : Json → Option α}
  {Q : α → α → Prop}

theorem find?_of_ne (h : Replaced name v v' r r') (hne : other ≠ name) :
    r'.find? other = r.find? other := by
  rw [h.find?_eq, if_neg hne]

theorem find?_of_eq (h : Replaced name v v' r r') : r'.find? name = some v' := by
  rw [h.find?_eq, if_pos rfl]

theorem required_of_ne (h : Replaced name v v' r r') (hne : other ≠ name) :
    r'.required other read = r.required other read := by
  rw [required, required, h.find?_of_ne hne]

theorem withDefault_of_ne (h : Replaced name v v' r r') (hne : other ≠ name) {d : α} :
    r'.withDefault other d read = r.withDefault other d read := by
  rw [withDefault, withDefault, h.find?_of_ne hne]

theorem optional_of_ne (h : Replaced name v v' r r') (hne : other ≠ name) :
    r'.optional other read = r.optional other read := by
  rw [optional, optional, h.find?_of_ne hne, h.positional]

theorem required (h : Replaced name v v' r r') (hread : Carries Q (read v) (read v')) :
    Carries Q (r.required name read) (r'.required name read) := by
  rw [Record.required, Record.required, h.find?_self, h.find?_of_eq]
  exact hread

theorem withDefault (h : Replaced name v v' r r') {d : α}
    (hread : Carries Q (read v) (read v')) :
    Carries Q (r.withDefault name d read) (r'.withDefault name d read) := by
  rw [Record.withDefault, Record.withDefault, h.find?_self, h.find?_of_eq]
  exact hread

/-- A field that may be missing is there when its value is replaced. -/
theorem optional (h : Replaced name v v' r r') (hread : Carries Q (read v) (read v'))
    (hv : v ≠ .null) (hv' : v' ≠ .null) :
    Carries (fun x y => ∃ a b, x = some a ∧ y = some b ∧ Q a b) (r.optional name read)
      (r'.optional name read) := by
  rw [Record.optional, Record.optional, h.find?_self, h.find?_of_eq]
  dsimp only
  rw [Json.nullable?_of_ne hv, Json.nullable?_of_ne hv', Carries.map_iff]
  exact hread.mono fun a b hab => ⟨a, b, rfl, rfl, hab⟩

end Record.Replaced

namespace Json

/-- A value and the same with another value in one of the declared fields. -/
inductive FieldReplaced (names : List String) (name : String) (v v' : Json) :
    Json → Json → Prop where
  | object (before after : List (Option String × Json)) :
    FieldReplaced names name v v' (.object (before ++ (some name, v) :: after))
      (.object (before ++ (some name, v') :: after))
  | array (before after : List Json) (h : names[before.length]? = some name) :
    FieldReplaced names name v v' (.array (before ++ v :: after)) (.array (before ++ v' :: after))

variable {names : List String} {name : String} {v v' j j' : Json}

theorem find?_append_cons {before after : List (String × Json)}
    (h : name ∉ before.map (·.1)) (p : Bool) (other : String) :
    Record.find? ⟨p, before ++ (name, v) :: after⟩ other =
      if other = name then some v else Record.find? ⟨p, before ++ after⟩ other := by
  have hbefore : (before.find? fun f => f.1 = name) = none :=
    List.find?_eq_none.2 fun f hf hname =>
      h (of_decide_eq_true hname ▸ List.mem_map_of_mem hf)
  unfold Record.find?
  dsimp only
  rw [List.find?_append, List.find?_append, List.find?_cons]
  by_cases hother : other = name
  · subst hother
    rw [if_pos rfl, hbefore, decide_eq_true rfl]
    rfl
  · rw [if_neg hother, decide_eq_false fun heq => hother heq.symm]

theorem record_replaced {before after : List (String × Json)} (h : name ∉ before.map (·.1))
    (p : Bool) : Record.Replaced name v v' ⟨p, before ++ (name, v) :: after⟩
      ⟨p, before ++ (name, v') :: after⟩ where
  positional := rfl
  find?_self := by rw [find?_append_cons h, if_pos rfl]
  find?_eq other := by
    rw [find?_append_cons h, find?_append_cons h]
    split <;> rfl

theorem carries_namedFields? (name : String) (v v' : Json)
    (before after : List (Option String × Json)) :
    Carries (fun fs fs' => ∃ b a, namedFields? after = some a ∧ fs = b ++ (name, v) :: a ∧
        fs' = b ++ (name, v') :: a)
      (namedFields? (before ++ (some name, v) :: after))
      (namedFields? (before ++ (some name, v') :: after)) := by
  intro fields hfields
  obtain ⟨bs, b, cs, hbs, hb, hcs, rfl⟩ := mapM_append_cons_eq_some.1 hfields
  obtain rfl : (name, v) = b := Option.some.inj hb
  exact ⟨bs ++ (name, v') :: cs,
    mapM_append_cons_eq_some.2 ⟨bs, (name, v'), cs, hbs, rfl, hcs, rfl⟩, bs, cs, hcs, rfl, rfl⟩

theorem record?_of_replaced (hnames : names.Nodup) (hname : name ∈ names)
    (h : FieldReplaced names name v v' j j') :
    Carries (Record.Replaced name v v') (j.record? names) (j'.record? names) := by
  cases h with
  | object before after =>
    refine (carries_namedFields? name v v' before after).bind ?_
    rintro _ _ ⟨b, a, -, rfl, rfl⟩
    simp only [List.filter_append, List.filter_cons, decide_eq_true hname, if_true,
      List.map_append, List.map_cons]
    split
    · next hdistinct =>
      -- the other declared fields have other names
      have hbefore := (List.nodup_append.1 hdistinct).2.2
      exact .some (record_replaced (fun hmem => hbefore _ hmem _ List.mem_cons_self rfl) false)
    · exact .none
  | array before after hcolumn =>
    obtain ⟨hlt, hget⟩ := List.getElem?_eq_some_iff.1 hcolumn
    obtain ⟨earlier, later, rfl, hlen⟩ : ∃ earlier later, names = earlier ++ name :: later ∧
        earlier.length = before.length := by
      refine ⟨names.take before.length, names.drop (before.length + 1), ?_, ?_⟩
      · rw [← hget, ← List.drop_eq_getElem_cons hlt, List.take_append_drop]
      · rw [List.length_take, Nat.min_eq_left (Nat.le_of_lt hlt)]
    have hzip : ∀ w, (earlier ++ name :: later).zip (before ++ w :: after) =
        earlier.zip before ++ (name, w) :: later.zip after := by
      intro w
      rw [List.zip_append hlen, List.zip_cons_cons]
    have hbefore : name ∉ (earlier.zip before).map (·.1) := by
      intro hmem
      obtain ⟨f, hf, hfname⟩ := List.mem_map.1 hmem
      have hearlier : name ∈ earlier := hfname ▸ (List.of_mem_zip hf).1
      exact (List.nodup_append.1 hnames).2.2 _ hearlier _ List.mem_cons_self rfl
    simp only [record?, hzip, List.length_append, List.length_cons]
    split
    · exact .some (record_replaced hbefore true)
    · exact .none

/-! ## Kinds -/

theorem tagged?_object_eq_some {kind? : Json → Option String}
    {fields : List (Option String × Json)} {kind : String} {rest : Json} :
    (object fields).tagged? kind? = some (kind, rest) ↔
      ∃ key tag, (fields.filter fun f => f.1 = some "nodeType") = [(key, tag)] ∧
        kind? tag = some kind ∧ rest = .object (fields.filter fun f => f.1 ≠ some "nodeType") := by
  rw [tagged?]
  split
  · next key tag heq =>
    simp only [Option.map_eq_some_iff, Prod.mk.injEq, heq, List.cons.injEq, and_true]
    constructor
    · rintro ⟨k, hk, rfl, rfl⟩
      exact ⟨key, tag, ⟨rfl, rfl⟩, hk, rfl⟩
    · rintro ⟨_, _, ⟨rfl, rfl⟩, hk, rfl⟩
      exact ⟨kind, hk, rfl, rfl⟩
  · next hnone =>
    simp only [reduceCtorEq, false_iff]
    rintro ⟨key, tag, heq, -⟩
    exact hnone key tag heq

theorem filter_kind_append_cons (hname : name ≠ "nodeType")
    (before after : List (Option String × Json)) :
    ((before ++ (some name, v) :: after).filter fun f => f.1 = some "nodeType") =
      (before ++ after).filter fun f => f.1 = some "nodeType" := by
  rw [List.filter_append, List.filter_cons_of_neg (by simpa using hname), List.filter_append]

theorem filter_fields_append_cons (hname : name ≠ "nodeType")
    (before after : List (Option String × Json)) :
    ((before ++ (some name, v) :: after).filter fun f => f.1 ≠ some "nodeType") =
      (before.filter fun f => f.1 ≠ some "nodeType") ++
        (some name, v) :: after.filter fun f => f.1 ≠ some "nodeType" := by
  rw [List.filter_append, List.filter_cons_of_pos (by simpa using hname)]

/-- A record with a kind keeps its kind when one of its fields has another value. -/
theorem tagged?_of_replaced {kind? : Json → Option String} (hname : name ≠ "nodeType")
    (h : FieldReplaced ("nodeType" :: names) name v v' j j') {kind : String} {rest : Json}
    (hkind : j.tagged? kind? = some (kind, rest)) :
    ∃ rest', j'.tagged? kind? = some (kind, rest') ∧ FieldReplaced names name v v' rest rest' := by
  cases h with
  | object before after =>
    obtain ⟨key, tag, htag, hk, rfl⟩ := tagged?_object_eq_some.1 hkind
    rw [filter_kind_append_cons hname] at htag
    refine ⟨_, tagged?_object_eq_some.2
      ⟨key, tag, by rw [filter_kind_append_cons hname, htag], hk, rfl⟩, ?_⟩
    rw [filter_fields_append_cons hname, filter_fields_append_cons hname]
    exact .object _ _
  | array before after hcolumn =>
    cases before with
    | nil => exact absurd (Option.some.inj hcolumn).symm hname
    | cons tag before =>
      obtain ⟨k, hk, heq⟩ := Option.map_eq_some_iff.1 hkind
      obtain ⟨rfl, rfl⟩ := Prod.mk.inj heq
      exact ⟨_, by rw [List.cons_append, tagged?, hk]; rfl, .array before after hcolumn⟩

/-! ## Literals -/

theorem allReadable_append {before after : List Json} :
    allReadable (before ++ after) = (allReadable before && allReadable after) := by
  induction before with
  | nil => rfl
  | cons item before ih => rw [List.cons_append, allReadable, allReadable, ih, Bool.and_assoc]

theorem allFieldsReadable_append {before after : List (Option String × Json)} :
    allFieldsReadable (before ++ after) =
      (allFieldsReadable before && allFieldsReadable after) := by
  induction before with
  | nil => rfl
  | cons f before ih => simp only [List.cons_append, allFieldsReadable, ih, Bool.and_assoc]

theorem isReadable_of_replaced (h : FieldReplaced names name v v' j j')
    (hv : v.isReadable = true → v'.isReadable = true) (hj : j.isReadable = true) :
    j'.isReadable = true := by
  cases h with
  | object before after =>
    simp only [isReadable, allFieldsReadable_append, allFieldsReadable, Bool.and_eq_true] at hj ⊢
    obtain ⟨hbefore, ⟨hkey, hvalue⟩, hafter⟩ := hj
    exact ⟨hbefore, ⟨hkey, hv hvalue⟩, hafter⟩
  | array before after =>
    simp only [isReadable, allReadable_append, allReadable, Bool.and_eq_true] at hj ⊢
    exact ⟨hj.1, hv hj.2.1, hj.2.2⟩

/-! ## Fields that are not declared -/

/-- An object, and the same with one more field or with another value in a field. -/
inductive UndeclaredChanged (name : String) (v : Json) : Json → Json → Prop where
  | added (before after : List (Option String × Json)) :
    UndeclaredChanged name v (.object (before ++ after))
      (.object (before ++ (some name, v) :: after))
  | changed (before after : List (Option String × Json)) (w : Json) :
    UndeclaredChanged name v (.object (before ++ (some name, w) :: after))
      (.object (before ++ (some name, v) :: after))

theorem record?_append_cons (hname : name ∉ names) (before after : List (Option String × Json)) :
    (object (before ++ (some name, v) :: after)).record? names =
      (object (before ++ after)).record? names := by
  simp only [record?, namedFields?, List.mapM_append, List.mapM_cons, Option.map_some,
    Option.bind_eq_bind, Option.pure_def, Option.bind_some, Option.bind_assoc, List.filter_append,
    List.filter_cons_of_neg, decide_eq_true_iff, hname, not_false_iff]

theorem record?_of_undeclared (hname : name ∉ names) (h : UndeclaredChanged name v j j') :
    j'.record? names = j.record? names := by
  cases h with
  | added before after => exact record?_append_cons hname before after
  | changed before after w =>
    rw [record?_append_cons hname, record?_append_cons hname]

/-- A record with a kind keeps its kind when a field of another name changes. -/
theorem tagged?_of_undeclared {kind? : Json → Option String} (hname : name ≠ "nodeType")
    (h : UndeclaredChanged name v j j') {kind : String} {rest : Json}
    (hkind : j.tagged? kind? = some (kind, rest)) :
    ∃ rest', j'.tagged? kind? = some (kind, rest') ∧ UndeclaredChanged name v rest rest' := by
  cases h with
  | added before after =>
    obtain ⟨key, tag, htag, hk, rfl⟩ := tagged?_object_eq_some.1 hkind
    refine ⟨_, tagged?_object_eq_some.2
      ⟨key, tag, by rw [filter_kind_append_cons hname, htag], hk, rfl⟩, ?_⟩
    rw [filter_fields_append_cons hname, List.filter_append]
    exact .added _ _
  | changed before after w =>
    obtain ⟨key, tag, htag, hk, rfl⟩ := tagged?_object_eq_some.1 hkind
    rw [filter_kind_append_cons hname] at htag
    refine ⟨_, tagged?_object_eq_some.2
      ⟨key, tag, by rw [filter_kind_append_cons hname, htag], hk, rfl⟩, ?_⟩
    rw [filter_fields_append_cons hname, filter_fields_append_cons hname]
    exact .changed _ _ w

theorem ignorable_of_undeclared (h : UndeclaredChanged name v j j') :
    j'.ignorable = j.ignorable := by
  cases h <;> rfl

theorem isReadable_of_undeclared (h : UndeclaredChanged name v j j') (hv : v.isReadable = true)
    (hj : j.isReadable = true) : j'.isReadable = true := by
  cases h with
  | added before after =>
    simp only [isReadable, allFieldsReadable_append, allFieldsReadable, Bool.and_eq_true] at hj ⊢
    exact ⟨hj.1, ⟨rfl, hv⟩, hj.2⟩
  | changed before after w =>
    simp only [isReadable, allFieldsReadable_append, allFieldsReadable, Bool.and_eq_true] at hj ⊢
    exact ⟨hj.1, ⟨rfl, hv⟩, hj.2.2⟩

end Json

end TokenConformance
