import SearchQuery.Proofs.Text.PrefixCode

/-!
# JSON texts are read in one way

No two values have the same text, in either layout (`Json.write_injective`).  A value is told from
what follows it unless it is a number and a digit follows, which never happens within a document:
after a member there is a comma, a break or a closing bracket.  So the statement that carries the
induction is about a value and what follows it (`Json.CutsOff`).

Arrays and objects are written alike, as members between brackets (`bracketed`), and one lemma cuts
either of them off (`bracketed_append_cancel`).
-/

namespace SearchQuery

namespace Json

/-- A property of all values follows from that of their members. -/
@[elab_as_elim]
theorem induction_members {motive : Json → Prop} (string : ∀ text, motive (.string text))
    (number : ∀ n, motive (.number n))
    (array : ∀ items, (∀ item ∈ items, motive item) → motive (.array items))
    (object : ∀ members, (∀ member ∈ members, motive member.2) → motive (.object members))
    (value : Json) : motive value := by
  refine Json.rec (motive_1 := motive) (motive_2 := fun items => ∀ item ∈ items, motive item)
    (motive_3 := fun members => ∀ member ∈ members, motive member.2)
    (motive_4 := fun member => motive member.2) string number array object ?_ ?_ ?_ ?_ ?_ value
  · simp
  · intro item items hitem hitems
    exact List.forall_mem_cons.mpr ⟨hitem, hitems⟩
  · simp
  · intro member members hmember hmembers
    exact List.forall_mem_cons.mpr ⟨hmember, hmembers⟩
  · intro name value hvalue
    exact hvalue

variable {layout : Layout} {level : Nat}

/-! ## What is written -/

/-- The characters that separate members at a level. -/
def breakChars (layout : Layout) (level : Nat) : List Char :=
  (layout.writeBreak level "").toList

/-- The characters of a value whose own members are at `level + 1`. -/
def chars (layout : Layout) (level : Nat) (value : Json) : List Char :=
  (value.write layout level "").toList

/-- The characters of a member at a level: its name and its value. -/
def memberChars (layout : Layout) (level : Nat) (member : String × Json) : List Char :=
  stringChars member.1 ++ (layout.colon.toList ++ member.2.chars layout level)

/-- The characters of members after the first one, each with a comma and a break before it. -/
def further (inner : List Char) (codes : List (List Char)) : List Char :=
  codes.flatMap fun code => ',' :: (inner ++ code)

/-- The characters of members between brackets: a break before each of them and after the last. -/
def bracketed (opening closing : Char) (inner outer : List Char) : List (List Char) → List Char
  | [] => [opening, closing]
  | code :: codes => opening :: (inner ++ (code ++ (further inner codes ++ (outer ++ [closing]))))

/-- A break is written after what is there. -/
lemma toList_writeBreak (out : String) :
    (layout.writeBreak level out).toList = out.toList ++ breakChars layout level := by
  cases layout with
  | compact => exact (List.append_nil out.toList).symm
  | pretty => simp [breakChars, Layout.writeBreak]

/-- The items of an array are written after what is there. -/
lemma toList_writeItems {items : List Json} (out : String)
    (hitems : ∀ item ∈ items, ∀ out : String,
      (item.write layout level out).toList = out.toList ++ item.chars layout level) :
    (writeItems layout level out items).toList =
      out.toList ++ further (breakChars layout level) (items.map (chars layout level)) := by
  induction items generalizing out with
  | nil =>
    rw [writeItems]
    exact (List.append_nil out.toList).symm
  | cons item items ih =>
    obtain ⟨hitem, hitems⟩ := List.forall_mem_cons.mp hitems
    rw [writeItems, ih _ hitems, hitem, toList_writeBreak, String.toList_push]
    simp [further]

/-- The members of an object are written after what is there. -/
lemma toList_writeMembers {members : List (String × Json)} (out : String)
    (hmembers : ∀ member ∈ members, ∀ out : String,
      (member.2.write layout level out).toList = out.toList ++ member.2.chars layout level) :
    (writeMembers layout level out members).toList =
      out.toList ++ further (breakChars layout level) (members.map (memberChars layout level)) := by
  induction members generalizing out with
  | nil =>
    rw [writeMembers]
    exact (List.append_nil out.toList).symm
  | cons member members ih =>
    obtain ⟨hmember, hmembers⟩ := List.forall_mem_cons.mp hmembers
    rw [writeMembers, ih _ hmembers, hmember, String.toList_append, toList_writeString,
      toList_writeBreak, String.toList_push]
    simp [further, memberChars]

/-- An array is written as its items between brackets. -/
lemma toList_write_array {items : List Json} (out : String)
    (hitems : ∀ item ∈ items, ∀ (level : Nat) (out : String),
      (item.write layout level out).toList = out.toList ++ item.chars layout level) :
    ((array items).write layout level out).toList =
      out.toList ++ bracketed '[' ']' (breakChars layout (level + 1)) (breakChars layout level)
        (items.map (chars layout (level + 1))) := by
  cases items with
  | nil =>
    rw [write, String.toList_append]
    rfl
  | cons item items =>
    obtain ⟨hitem, hitems⟩ := List.forall_mem_cons.mp hitems
    rw [write, String.toList_push, toList_writeBreak,
      toList_writeItems _ fun item h => hitems item h (level + 1), hitem, toList_writeBreak,
      String.toList_push]
    simp [bracketed]

/-- An object is written as its members between braces. -/
lemma toList_write_object {members : List (String × Json)} (out : String)
    (hmembers : ∀ member ∈ members, ∀ (level : Nat) (out : String),
      (member.2.write layout level out).toList = out.toList ++ member.2.chars layout level) :
    ((object members).write layout level out).toList =
      out.toList ++
        bracketed '\x7b' '\x7d' (breakChars layout (level + 1)) (breakChars layout level)
          (members.map (memberChars layout (level + 1))) := by
  cases members with
  | nil =>
    rw [write, String.toList_append]
    rfl
  | cons member members =>
    obtain ⟨hmember, hmembers⟩ := List.forall_mem_cons.mp hmembers
    rw [write, String.toList_push, toList_writeBreak,
      toList_writeMembers _ fun member h => hmembers member h (level + 1), hmember,
      String.toList_append, toList_writeString, toList_writeBreak, String.toList_push]
    simp [bracketed, memberChars]

/-- A value is written after what is there. -/
lemma toList_write (value : Json) (level : Nat) (out : String) :
    (value.write layout level out).toList = out.toList ++ value.chars layout level := by
  induction value using induction_members generalizing level out with
  | string text =>
    rw [chars, write, write, toList_writeString, toList_writeString]
    rfl
  | number n =>
    rw [chars, write, write, String.toList_append, String.toList_append]
    rfl
  | array items ih =>
    rw [chars, toList_write_array _ ih, toList_write_array _ ih]
    rfl
  | object members ih =>
    rw [chars, toList_write_object _ ih, toList_write_object _ ih]
    rfl

/-- The characters of a string. -/
lemma chars_string (text : String) : (string text).chars layout level = stringChars text := by
  rw [chars, write, toList_writeString]
  rfl

/-- The characters of a number are its digits. -/
lemma chars_number (n : Nat) : (number n).chars layout level = Nat.toDigits 10 n := by
  simp [chars, write, Nat.repr]

/-- The characters of an array. -/
lemma chars_array (items : List Json) :
    (array items).chars layout level =
      bracketed '[' ']' (breakChars layout (level + 1)) (breakChars layout level)
        (items.map (chars layout (level + 1))) := by
  rw [chars, toList_write_array _ fun item _ => toList_write item]
  rfl

/-- The characters of an object. -/
lemma chars_object (members : List (String × Json)) :
    (object members).chars layout level =
      bracketed '\x7b' '\x7d' (breakChars layout (level + 1)) (breakChars layout level)
        (members.map (memberChars layout (level + 1))) := by
  rw [chars, toList_write_object _ fun member _ => toList_write member.2]
  rfl

/-! ## What follows -/

/-- No digit follows, so a number ends here. -/
def EndsNumber (rest : List Char) : Prop :=
  ∀ c ∈ rest.head?, c.isDigit = false

/-- Neither a comma nor a digit follows, so the members end here. -/
def EndsMembers (rest : List Char) : Prop :=
  ∀ c ∈ rest.head?, c ≠ ',' ∧ c.isDigit = false

/-- What is written for this value can be told from what follows it. -/
def CutsOff {α : Type} (code : α → List Char) (a : α) : Prop :=
  ∀ ⦃b : α⦄ ⦃r s : List Char⦄, EndsNumber r → EndsNumber s → code a ++ r = code b ++ s →
    a = b ∧ r = s

/-- A further member ends a number before it, and so does the end of the members. -/
lemma endsNumber_further {inner r : List Char} (codes : List (List Char)) (hr : EndsMembers r) :
    EndsNumber (further inner codes ++ r) := by
  cases codes with
  | nil => exact fun c hc => (hr c hc).2
  | cons code codes =>
    rintro c ⟨⟩
    decide

variable {α : Type} {code : α → List Char} {as bs : List α} {inner outer r s : List Char}

/-- Further members can be told from what ends them. -/
lemma further_append_cancel (has : ∀ a ∈ as, CutsOff code a) (hr : EndsMembers r)
    (hs : EndsMembers s)
    (h : further inner (as.map code) ++ r = further inner (bs.map code) ++ s) :
    as = bs ∧ r = s := by
  induction as generalizing bs with
  | nil =>
    cases bs with
    | nil => exact ⟨rfl, h⟩
    | cons b bs =>
      have hcomma : r.head? = some ',' := congrArg List.head? h
      exact absurd rfl (hr ',' hcomma).1
  | cons a as ih =>
    obtain ⟨ha, has⟩ := List.forall_mem_cons.mp has
    cases bs with
    | nil =>
      have hcomma : s.head? = some ',' := congrArg List.head? h.symm
      exact absurd rfl (hs ',' hcomma).1
    | cons b bs =>
      have hcodes : code a ++ (further inner (as.map code) ++ r) =
          code b ++ (further inner (bs.map code) ++ s) := by
        simpa [further] using h
      obtain ⟨rfl, hrest⟩ := ha (endsNumber_further _ hr) (endsNumber_further _ hs) hcodes
      obtain ⟨rfl, hend⟩ := ih has hrest
      exact ⟨rfl, hend⟩

/-- Members between brackets can be told from what follows them. -/
lemma bracketed_append_cancel {opening closing : Char} (has : ∀ a ∈ as, CutsOff code a)
    (hclose : ∀ b r s, inner ++ (code b ++ r) ≠ closing :: s)
    (houter : ∀ r, EndsMembers (outer ++ closing :: r))
    (h : bracketed opening closing inner outer (as.map code) ++ r =
      bracketed opening closing inner outer (bs.map code) ++ s) : as = bs ∧ r = s := by
  cases as with
  | nil =>
    cases bs with
    | nil => exact ⟨rfl, by simpa [bracketed] using h⟩
    | cons b bs => exact absurd (by simpa [bracketed] using h.symm) (hclose b _ r)
  | cons a as =>
    obtain ⟨ha, has⟩ := List.forall_mem_cons.mp has
    cases bs with
    | nil => exact absurd (by simpa [bracketed] using h) (hclose a _ s)
    | cons b bs =>
      have hcodes : code a ++ (further inner (as.map code) ++ (outer ++ closing :: r)) =
          code b ++ (further inner (bs.map code) ++ (outer ++ closing :: s)) := by
        simpa [bracketed] using h
      obtain ⟨rfl, hrest⟩ := ha (endsNumber_further _ (houter r)) (endsNumber_further _ (houter s))
        hcodes
      obtain ⟨rfl, hend⟩ := further_append_cancel has (houter r) (houter s) hrest
      refine ⟨rfl, ?_⟩
      simpa using hend

/-! ## What a value begins with -/

/-- The character that a value begins with. -/
def Opens (c : Char) : Json → Prop
  | string _ => c = '"'
  | number _ => c.isDigit = true
  | array _ => c = '['
  | object _ => c = '\x7b'

/-- What is written for a value begins as it may. -/
lemma exists_chars_eq_cons (layout : Layout) (level : Nat) (value : Json) :
    ∃ c cs, value.chars layout level = c :: cs ∧ value.Opens c := by
  have hbracketed : ∀ opening closing inner outer codes,
      ∃ cs, bracketed opening closing inner outer codes = opening :: cs := by
    intro opening closing inner outer codes
    cases codes with
    | nil => exact ⟨_, rfl⟩
    | cons code codes => exact ⟨_, rfl⟩
  cases value with
  | string text =>
    rw [chars_string]
    exact ⟨'"', _, rfl, rfl⟩
  | number n =>
    obtain ⟨c, cs, hcs⟩ := List.exists_cons_of_ne_nil (Nat.toDigits_ne_nil (n := n) (b := 10))
    have hc : c ∈ Nat.toDigits 10 n := by simp [hcs]
    rw [chars_number]
    exact ⟨c, cs, hcs, Nat.isDigit_of_mem_toDigits (by decide) (by decide) hc⟩
  | array items =>
    obtain ⟨cs, hcs⟩ := hbracketed '[' ']' (breakChars layout (level + 1)) (breakChars layout level)
      (items.map (chars layout (level + 1)))
    rw [chars_array]
    exact ⟨'[', cs, hcs, rfl⟩
  | object members =>
    obtain ⟨cs, hcs⟩ := hbracketed '\x7b' '\x7d' (breakChars layout (level + 1))
      (breakChars layout level) (members.map (memberChars layout (level + 1)))
    rw [chars_object]
    exact ⟨'\x7b', cs, hcs, rfl⟩

/-- Texts that begin alike are those of values of one type. -/
lemma exists_opens {value other : Json}
    (h : value.chars layout level ++ r = other.chars layout level ++ s) :
    ∃ c, value.Opens c ∧ other.Opens c := by
  obtain ⟨c, cs, hcs, hc⟩ := exists_chars_eq_cons layout level value
  obtain ⟨d, ds, hds, hd⟩ := exists_chars_eq_cons layout level other
  rw [hcs, hds] at h
  obtain ⟨rfl, -⟩ := List.cons.inj h
  exact ⟨c, hc, hd⟩

/-- After a break, or at once in the compact layout, what was to follow follows. -/
lemma breakChars_append_cons (layout : Layout) (level : Nat) (c : Char) (cs : List Char) :
    ∃ d ds, breakChars layout level ++ c :: cs = d :: ds ∧ (d = '\n' ∨ d = c) := by
  cases layout with
  | compact => exact ⟨c, cs, rfl, Or.inr rfl⟩
  | pretty =>
    have hbreak : breakChars .pretty level = '\n' :: List.replicate (2 * level) ' ' := by
      simp [breakChars, Layout.writeBreak]
    rw [hbreak]
    exact ⟨'\n', _, rfl, Or.inl rfl⟩

/-- A closing bracket ends the members, be there a break before it or not. -/
lemma endsMembers_breakChars {closing : Char} (hcomma : closing ≠ ',')
    (hdigit : closing.isDigit = false) (rest : List Char) :
    EndsMembers (breakChars layout level ++ closing :: rest) := by
  obtain ⟨d, ds, hds, hd⟩ := breakChars_append_cons layout level closing rest
  rw [hds]
  rintro c ⟨⟩
  rcases hd with rfl | rfl
  · decide
  · exact ⟨hcomma, hdigit⟩

/-- A first member does not begin with the closing bracket. -/
lemma breakChars_append_ne {closing c : Char} {cs : List Char} (hbreak : closing ≠ '\n')
    (hc : c ≠ closing) (rest s : List Char) :
    breakChars layout level ++ (c :: cs ++ rest) ≠ closing :: s := by
  obtain ⟨d, ds, hds, hd⟩ := breakChars_append_cons layout level c (cs ++ rest)
  rw [List.cons_append, hds]
  intro h
  obtain ⟨rfl, -⟩ := List.cons.inj h
  rcases hd with rfl | rfl
  · exact hbreak rfl
  · exact hc rfl

/-- No value begins with the closing bracket of an array. -/
lemma breakChars_append_chars_ne {n : Nat} (item : Json) (rest s : List Char) :
    breakChars layout level ++ (item.chars layout n ++ rest) ≠ ']' :: s := by
  obtain ⟨c, cs, hcs, hc⟩ := exists_chars_eq_cons layout n item
  rw [hcs]
  refine breakChars_append_ne (by decide) ?_ rest s
  rintro rfl
  cases item <;> simp [Opens] at hc

/-! ## No two values are written alike -/

/-- A member is told from what follows it if its value is. -/
lemma cutsOff_memberChars {member : String × Json}
    (hvalue : CutsOff (chars layout level) member.2) :
    CutsOff (memberChars layout level) member := by
  intro other r s hr hs h
  simp only [memberChars, List.append_assoc] at h
  obtain ⟨hname, hrest⟩ := isPrefixCode_string h
  obtain ⟨hsame, hend⟩ := hvalue hr hs (List.append_cancel_left hrest)
  exact ⟨Prod.ext hname hsame, hend⟩

/-- The digits of a number are told from what follows them if no digit does. -/
lemma toDigits_append_cancel {m n : Nat} (hr : EndsNumber r) (hs : EndsNumber s)
    (h : Nat.toDigits 10 m ++ r = Nat.toDigits 10 n ++ s) : m = n ∧ r = s := by
  have hdigits : ∀ k, ∀ c ∈ Nat.toDigits 10 k, c.isDigit = true :=
    fun k c hc => Nat.isDigit_of_mem_toDigits (by decide) (by decide) hc
  obtain ⟨hsame, hend⟩ := run_append_cancel (hdigits m) (hdigits n) hr hs h
  refine ⟨?_, hend⟩
  rw [← Nat.ofDigitChars_ten_toDigits (n := m), hsame, Nat.ofDigitChars_ten_toDigits]

/-- A value is told from what follows it if no digit does. -/
lemma cutsOff_chars (value : Json) (level : Nat) : CutsOff (chars layout level) value := by
  induction value using induction_members generalizing level with
  | string text =>
    intro other r s hr hs h
    obtain ⟨c, rfl, hother⟩ := exists_opens h
    cases other with
    | string other =>
      rw [chars_string, chars_string] at h
      obtain ⟨rfl, hend⟩ := isPrefixCode_string h
      exact ⟨rfl, hend⟩
    | _ => simp [Opens] at hother
  | number n =>
    intro other r s hr hs h
    obtain ⟨c, hc, hother⟩ := exists_opens h
    cases other with
    | number other =>
      rw [chars_number, chars_number] at h
      obtain ⟨rfl, hend⟩ := toDigits_append_cancel hr hs h
      exact ⟨rfl, hend⟩
    | _ =>
      obtain rfl := hother
      simp [Opens] at hc
  | array items ih =>
    intro other r s hr hs h
    obtain ⟨c, rfl, hother⟩ := exists_opens h
    cases other with
    | array others =>
      rw [chars_array, chars_array] at h
      obtain ⟨rfl, hend⟩ := bracketed_append_cancel
        (fun item hitem => ih item hitem (level + 1)) breakChars_append_chars_ne
        (endsMembers_breakChars (by decide) (by decide)) h
      exact ⟨rfl, hend⟩
    | _ => simp [Opens] at hother
  | object members ih =>
    intro other r s hr hs h
    obtain ⟨c, rfl, hother⟩ := exists_opens h
    cases other with
    | object others =>
      rw [chars_object, chars_object] at h
      obtain ⟨rfl, hend⟩ := bracketed_append_cancel
        (fun member hmember => cutsOff_memberChars (ih member hmember (level + 1)))
        (fun member r s => breakChars_append_ne (by decide) (by decide) _ s)
        (endsMembers_breakChars (by decide) (by decide)) h
      exact ⟨rfl, hend⟩
    | _ => simp [Opens] at hother

/-- In a layout no two values have the same text. -/
lemma write_injective (layout : Layout) (level : Nat) (out : String) :
    Function.Injective fun value : Json => value.write layout level out := by
  intro value other h
  have hchars := congrArg String.toList h
  simp only [toList_write] at hchars
  have hempty : EndsNumber [] := by simp [EndsNumber]
  exact (cutsOff_chars value level hempty hempty
    (congrArg (· ++ []) (List.append_cancel_left hchars))).1

end Json

end SearchQuery
