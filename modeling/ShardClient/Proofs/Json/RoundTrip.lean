/-
The compact form of a JSON value is read back as that value.

Reading has two machines, a scanner that makes tokens of bytes and a parser that makes a value
of tokens, so the proof has two halves that meet at the tokens of a value.  Each half is an
induction over the value and says what its machine does with the value when anything may follow
it: the scanner must then have come to the end of a numeral or a word, which is what `Stops` is
for, since brackets, commas and the end of the text all stop them.
-/
import ShardClient.Proofs.Json.Numeral
import ShardClient.Proofs.Json.Spelling

namespace ShardClient

namespace Json

/-- A value whose numerals and strings are spelt as the grammar wants them. -/
inductive WellSpelt : Json → Prop
  | null : WellSpelt .null
  | bool (b : Bool) : WellSpelt (.bool b)
  | number {numeral : Bytes} (h : isNumeral numeral = true)
      (bytes : ∀ b ∈ numeral, isNumeralByte b = true) : WellSpelt (.number numeral)
  | string {spelling : Bytes} (h : Spelling spelling) : WellSpelt (.string spelling)
  | array {items : List Json} (h : ∀ item ∈ items, WellSpelt item) : WellSpelt (.array items)
  | object {members : List (Bytes × Json)} (keys : ∀ m ∈ members, Spelling m.1)
      (values : ∀ m ∈ members, WellSpelt m.2) : WellSpelt (.object members)

mutual

/-- The tokens of a value. -/
def tokens : Json → List Token
  | .null => [.null]
  | .bool b => [.bool b]
  | .number numeral => [.number numeral]
  | .string spelling => [.string spelling]
  | .array items => .beginArray :: itemTokens items ++ [.endArray]
  | .object members => .beginObject :: memberTokens members ++ [.endObject]

/-- The tokens between the brackets of an array. -/
def itemTokens : List Json → List Token
  | [] => []
  | item :: items => tokens item ++ moreItemTokens items

/-- The tokens of further items. -/
def moreItemTokens : List Json → List Token
  | [] => []
  | item :: items => .comma :: tokens item ++ moreItemTokens items

/-- The tokens between the braces of an object. -/
def memberTokens : List (Bytes × Json) → List Token
  | [] => []
  | (key, value) :: members => .string key :: .colon :: tokens value ++ moreMemberTokens members

/-- The tokens of further members. -/
def moreMemberTokens : List (Bytes × Json) → List Token
  | [] => []
  | (key, value) :: members =>
    .comma :: .string key :: .colon :: tokens value ++ moreMemberTokens members

end

/-! ### Scanning -/

/-- Neither a numeral nor a word goes on with the rest of the text. -/
def Stops (rest : Bytes) : Prop :=
  ∀ b, rest.head? = some b → isNumeralByte b = false ∧ isLetter b = false

theorem stops_nil : Stops [] := by
  intro b hb
  simp at hb

theorem stops_cons {b : UInt8} (h : isNumeralByte b = false ∧ isLetter b = false) (rest : Bytes) :
    Stops (b :: rest) := by
  intro c hc
  obtain rfl : b = c := by simpa using hc
  exact h

/-- Reading a byte that is a token. -/
theorem scanFrom_byte {b : UInt8} {t : Token} (h : Scan.start? b = some ([t], .between))
    (done : List Token) (rest : Bytes) :
    scanFrom done .between (b :: rest) = scanFrom (t :: done) .between rest := by
  rw [scanFrom]
  simp only [Scan.step?, h]
  rfl

/-- A token that is finished by what follows it counts as read before that. -/
theorem scanFrom_finished {s : Scan} {t : Token} {rest : Bytes} (hend : s.finish? = some [t])
    (hstep : ∀ b, rest.head? = some b → s.step? b = Scan.startBehind? (some t) b)
    (done : List Token) : scanFrom done s rest = scanFrom (t :: done) .between rest := by
  cases rest with
  | nil =>
    rw [scanFrom, scanFrom, hend]
    simp [Scan.finish?]
  | cons b rest =>
    rw [scanFrom, scanFrom, hstep b rfl]
    simp only [Scan.step?, Scan.startBehind?]
    cases Scan.start? b with
    | none => rfl
    | some p => simp

theorem scanFrom_word (letters : Bytes) {t : Token} {rest : Bytes}
    (h : ofWord? letters.reverse = some t) (hrest : Stops rest) (done : List Token) :
    scanFrom done (.word letters) rest = scanFrom (t :: done) .between rest := by
  refine scanFrom_finished (by rw [Scan.finish?, h]; rfl) (fun b hb => ?_) done
  rw [Scan.step?, (hrest b hb).2, h]
  rfl

theorem scanFrom_numeralBytes {bs : Bytes} (h : ∀ b ∈ bs, isNumeralByte b = true)
    (done : List Token) (chars rest : Bytes) :
    scanFrom done (.numeral chars) (bs ++ rest)
      = scanFrom done (.numeral (bs.reverse ++ chars)) rest := by
  induction bs generalizing chars with
  | nil => rfl
  | cons b bs ih =>
    rw [List.cons_append, scanFrom, Scan.step?, if_pos (h b List.mem_cons_self)]
    simp only [List.reverse_nil, List.nil_append]
    rw [ih fun c hc => h c (List.mem_cons_of_mem _ hc)]
    simp

/-- A numeral begins with a digit or with the sign. -/
theorem numeral_head {numeral : Bytes} (h : isNumeral numeral = true) :
    ∃ b bs, numeral = b :: bs ∧ (isDigit b || b == 0x2d) = true := by
  cases numeral with
  | nil => exact absurd h (by decide)
  | cons b bs =>
    refine ⟨b, bs, rfl, ?_⟩
    by_cases hsign : b = 0x2d
    · simp [hsign]
    rw [isNumeral] at h
    · rw [isUnsigned, List.takeWhile_cons] at h
      by_cases hb : isDigit b = true
      · simp [hb]
      · simp [hb] at h
    · intro rest hrest
      exact hsign (List.cons.inj hrest).1

theorem start?_numeral {b : UInt8} (h : (isDigit b || b == 0x2d) = true) :
    Scan.start? b = some ([], .numeral [b]) := by
  have hall : ∀ n : Fin 256, (isDigit (UInt8.ofNat n.val) || UInt8.ofNat n.val == 0x2d) = true →
      Scan.start? (UInt8.ofNat n.val) = some ([], .numeral [UInt8.ofNat n.val]) := by
    decide +kernel
  have hb := hall ⟨b.toNat, b.toNat_lt⟩
  rw [UInt8.ofNat_toNat] at hb
  exact hb h

theorem scanFrom_number {numeral rest : Bytes} (h : isNumeral numeral = true)
    (bytes : ∀ b ∈ numeral, isNumeralByte b = true) (hrest : Stops rest) (done : List Token) :
    scanFrom done .between (numeral ++ rest) = scanFrom (.number numeral :: done) .between rest := by
  have hread : ∀ chars : Bytes, chars.reverse = numeral →
      scanFrom done (.numeral chars) rest = scanFrom (.number numeral :: done) .between rest := by
    intro chars hchars
    have hof : ofNumeral? chars.reverse = some (.number numeral) := by
      rw [hchars, ofNumeral?, if_pos h]
    refine scanFrom_finished (by rw [Scan.finish?, hof]; rfl) (fun b hb => ?_) done
    rw [Scan.step?, (hrest b hb).1, hof]
    rfl
  obtain ⟨b, bs, rfl, hb⟩ := numeral_head h
  rw [List.cons_append, scanFrom]
  simp only [Scan.step?, start?_numeral hb, List.reverse_nil, List.nil_append]
  rw [scanFrom_numeralBytes fun c hc => bytes c (List.mem_cons_of_mem _ hc)]
  exact hread _ (by simp)

theorem scanFrom_quote {spelling : Bytes} (h : Spelling spelling) (done : List Token)
    (rest : Bytes) :
    scanFrom done .between (quote spelling ++ rest)
      = scanFrom (.string spelling :: done) .between rest := by
  rw [quote, List.append_assoc, List.append_assoc, List.singleton_append, List.singleton_append,
    scanFrom]
  simp only [Scan.step?, show Scan.start? 0x22 = some ([], .string []) by decide, List.reverse_nil,
    List.nil_append]
  exact scanFrom_spelling h done [] rest

/-- The scanner makes the tokens of the value of its compact form. -/
def Scans (v : Json) : Prop :=
  ∀ (done : List Token) (rest : Bytes), Stops rest →
    scanFrom done .between (print v ++ rest) = scanFrom ((tokens v).reverse ++ done) .between rest

theorem stops_moreItems (items : List Json) (rest : Bytes) :
    Stops (printMoreItems items ++ 0x5d :: rest) := by
  cases items with
  | nil => exact stops_cons (by decide) _
  | cons item items =>
    rw [printMoreItems]
    exact stops_cons (by decide) _

theorem scans_moreItems {items : List Json} (h : ∀ item ∈ items, Scans item) (done : List Token)
    (rest : Bytes) :
    scanFrom done .between (printMoreItems items ++ 0x5d :: rest)
      = scanFrom (.endArray :: ((moreItemTokens items).reverse ++ done)) .between rest := by
  induction items generalizing done with
  | nil =>
    rw [printMoreItems, moreItemTokens]
    exact scanFrom_byte (by decide) _ _
  | cons item items ih =>
    have hcomma : Scan.start? 0x2c = some ([.comma], .between) := by decide
    rw [printMoreItems, moreItemTokens, List.append_assoc, List.append_assoc,
      List.singleton_append, scanFrom_byte hcomma,
      h item List.mem_cons_self _ _ (stops_moreItems items rest),
      ih fun i hi => h i (List.mem_cons_of_mem _ hi)]
    simp

theorem stops_moreMembers (members : List (Bytes × Json)) (rest : Bytes) :
    Stops (printMoreMembers members ++ 0x7d :: rest) := by
  cases members with
  | nil => exact stops_cons (by decide) _
  | cons m members =>
    rw [printMoreMembers]
    exact stops_cons (by decide) _

/-- A member, and whatever stops its value. -/
theorem scans_member {key : Bytes} {value : Json} (hkey : Spelling key) (h : Scans value)
    (done : List Token) {rest : Bytes} (hrest : Stops rest) :
    scanFrom done .between (quote key ++ [0x3a] ++ print value ++ rest)
      = scanFrom ((tokens value).reverse ++ .colon :: .string key :: done) .between rest := by
  have hcolon : Scan.start? 0x3a = some ([.colon], .between) := by decide
  rw [List.append_assoc, List.append_assoc, scanFrom_quote hkey, List.singleton_append,
    scanFrom_byte hcolon, h _ _ hrest]

theorem scans_moreMembers {members : List (Bytes × Json)} (keys : ∀ m ∈ members, Spelling m.1)
    (h : ∀ m ∈ members, Scans m.2) (done : List Token) (rest : Bytes) :
    scanFrom done .between (printMoreMembers members ++ 0x7d :: rest)
      = scanFrom (.endObject :: ((moreMemberTokens members).reverse ++ done)) .between rest := by
  induction members generalizing done with
  | nil =>
    rw [printMoreMembers, moreMemberTokens]
    exact scanFrom_byte (by decide) _ _
  | cons m members ih =>
    obtain ⟨key, value⟩ := m
    have hcomma : Scan.start? 0x2c = some ([.comma], .between) := by decide
    have hmember := scans_member (keys _ List.mem_cons_self) (h _ List.mem_cons_self)
      (.comma :: done) (stops_moreMembers members rest)
    simp only [List.append_assoc, List.cons_append, List.nil_append] at hmember
    rw [printMoreMembers, moreMemberTokens]
    simp only [List.append_assoc, List.cons_append, List.nil_append]
    rw [scanFrom_byte hcomma, hmember, ih (fun m hm => keys m (List.mem_cons_of_mem _ hm))
      fun m hm => h m (List.mem_cons_of_mem _ hm)]
    simp

/-- **The scanner makes the tokens of a value of its compact form.** -/
theorem scans_of_wellSpelt {v : Json} (h : WellSpelt v) : Scans v := by
  have hopen : Scan.start? 0x5b = some ([.beginArray], .between) := by decide
  have hbrace : Scan.start? 0x7b = some ([.beginObject], .between) := by decide
  induction h with
  | null =>
    intro done rest hrest
    exact scanFrom_word [0x6c, 0x6c, 0x75, 0x6e] (by decide) hrest done
  | bool b =>
    intro done rest hrest
    cases b with
    | true => exact scanFrom_word [0x65, 0x75, 0x72, 0x74] (by decide) hrest done
    | false =>
      exact scanFrom_word [0x65, 0x73, 0x6c, 0x61, 0x66] (by decide) hrest done
  | number h bytes =>
    intro done rest hrest
    rw [print]
    exact scanFrom_number h bytes hrest done
  | string h =>
    intro done rest _
    rw [print]
    exact scanFrom_quote h done rest
  | @array items h ih =>
    intro done rest _
    rw [print, tokens]
    simp only [List.append_assoc, List.cons_append, List.nil_append]
    rw [scanFrom_byte hopen]
    cases items with
    | nil =>
      rw [printItems, itemTokens]
      exact scanFrom_byte (by decide) _ _
    | cons item items =>
      rw [printItems, itemTokens, List.append_assoc,
        ih item List.mem_cons_self _ _ (stops_moreItems items rest),
        scans_moreItems fun i hi => ih i (List.mem_cons_of_mem _ hi)]
      simp
  | @object members keys _ ih =>
    intro done rest _
    rw [print, tokens]
    simp only [List.append_assoc, List.cons_append, List.nil_append]
    rw [scanFrom_byte hbrace]
    cases members with
    | nil =>
      rw [printMembers, memberTokens]
      exact scanFrom_byte (by decide) _ _
    | cons m members =>
      obtain ⟨key, value⟩ := m
      have hmember := scans_member (keys _ List.mem_cons_self) (ih _ List.mem_cons_self)
        (.beginObject :: done) (stops_moreMembers members rest)
      simp only [List.append_assoc, List.cons_append, List.nil_append] at hmember
      rw [printMembers, memberTokens]
      simp only [List.append_assoc, List.cons_append, List.nil_append]
      rw [hmember, scans_moreMembers (fun m hm => keys m (List.mem_cons_of_mem _ hm))
        fun m hm => ih m (List.mem_cons_of_mem _ hm)]
      simp

theorem tokens?_print {v : Json} (h : WellSpelt v) : tokens? (print v) = some (tokens v) := by
  have := scans_of_wellSpelt h [] [] stops_nil
  rw [List.append_nil, List.append_nil] at this
  rw [tokens?, this, scanFrom]
  simp [Scan.finish?]

/-! ### Parsing -/

/-- The parser makes a value of its tokens. -/
def Parses (v : Json) : Prop :=
  ∀ (stack : List Frame) (rest : List Token),
    Parser.run? ⟨stack, .value⟩ (tokens v ++ rest) = Parser.run? ⟨stack, .behind v⟩ rest

theorem run?_step {p q : Parser} {t : Token} (h : p.step? t = some q) (rest : List Token) :
    p.run? (t :: rest) = q.run? rest := by
  rw [Parser.run?, h]

/-- No value begins with the end of an array. -/
theorem tokens_head (v : Json) : ∃ t ts, tokens v = t :: ts ∧ t ≠ .endArray := by
  cases v with
  | null => exact ⟨_, _, by rw [tokens], by simp⟩
  | bool b => exact ⟨_, _, by rw [tokens], by simp⟩
  | number numeral => exact ⟨_, _, by rw [tokens], by simp⟩
  | string spelling => exact ⟨_, _, by rw [tokens], by simp⟩
  | array items => exact ⟨_, _, by rw [tokens, List.cons_append], by simp⟩
  | object members => exact ⟨_, _, by rw [tokens, List.cons_append], by simp⟩

/-- The first item of an array is read like any other. -/
theorem run?_firstItem (v : Json) (stack : List Frame) (rest : List Token) :
    Parser.run? ⟨stack, .itemOrEnd⟩ (tokens v ++ rest)
      = Parser.run? ⟨.items [] :: stack, .value⟩ (tokens v ++ rest) := by
  obtain ⟨t, ts, ht, hne⟩ := tokens_head v
  rw [ht, List.cons_append, Parser.run?, Parser.run?]
  have hstep : Parser.step? ⟨stack, .itemOrEnd⟩ t
      = Parser.step? ⟨.items [] :: stack, .value⟩ t := by
    cases t <;> first | rfl | exact absurd rfl hne
  rw [hstep]

theorem parses_moreItems {items : List Json} (h : ∀ item ∈ items, Parses item)
    (stack : List Frame) (done : List Json) (v : Json) (rest : List Token) :
    Parser.run? ⟨.items done :: stack, .behind v⟩ (moreItemTokens items ++ .endArray :: rest)
      = Parser.run? ⟨stack, .behind (.array (done.reverse ++ v :: items))⟩ rest := by
  induction items generalizing done v with
  | nil =>
    rw [moreItemTokens, List.nil_append]
    refine (run?_step rfl rest).trans ?_
    rw [List.reverse_cons]
  | cons item items ih =>
    simp only [moreItemTokens, List.cons_append, List.append_assoc]
    refine (run?_step rfl _).trans ((h item List.mem_cons_self _ _).trans ?_)
    rw [ih fun i hi => h i (List.mem_cons_of_mem _ hi)]
    simp

theorem parses_moreMembers {members : List (Bytes × Json)} (h : ∀ m ∈ members, Parses m.2)
    (stack : List Frame) (done : List (Bytes × Json)) (key : Bytes) (v : Json)
    (rest : List Token) :
    Parser.run? ⟨.member done key :: stack, .behind v⟩
        (moreMemberTokens members ++ .endObject :: rest)
      = Parser.run? ⟨stack, .behind (.object (done.reverse ++ (key, v) :: members))⟩ rest := by
  induction members generalizing done key v with
  | nil =>
    rw [moreMemberTokens, List.nil_append]
    refine (run?_step rfl rest).trans ?_
    rw [List.reverse_cons]
  | cons m members ih =>
    obtain ⟨key', value⟩ := m
    simp only [moreMemberTokens, List.cons_append, List.append_assoc]
    refine (run?_step rfl _).trans ((run?_step rfl _).trans ((run?_step rfl _).trans ?_))
    refine (h _ List.mem_cons_self _ _).trans ?_
    rw [ih fun m hm => h m (List.mem_cons_of_mem _ hm)]
    simp

/-- **The parser makes a value of its tokens.** -/
theorem parses_of_wellSpelt {v : Json} (h : WellSpelt v) : Parses v := by
  induction h with
  | null => intro stack rest; rw [tokens]; exact run?_step rfl rest
  | bool b => intro stack rest; rw [tokens]; exact run?_step rfl rest
  | number h bytes => intro stack rest; rw [tokens]; exact run?_step rfl rest
  | string h => intro stack rest; rw [tokens]; exact run?_step rfl rest
  | @array items _ ih =>
    intro stack rest
    rw [tokens, List.append_assoc, List.cons_append, List.singleton_append]
    refine (run?_step rfl _).trans ?_
    cases items with
    | nil =>
      rw [itemTokens, List.nil_append]
      exact run?_step rfl rest
    | cons item items =>
      rw [itemTokens, List.append_assoc, run?_firstItem, ih item List.mem_cons_self,
        parses_moreItems fun i hi => ih i (List.mem_cons_of_mem _ hi)]
      rfl
  | @object members _ _ ih =>
    intro stack rest
    rw [tokens, List.append_assoc, List.cons_append, List.singleton_append]
    refine (run?_step rfl _).trans ?_
    cases members with
    | nil =>
      rw [memberTokens, List.nil_append]
      exact run?_step rfl rest
    | cons m members =>
      obtain ⟨key, value⟩ := m
      simp only [memberTokens, List.cons_append, List.append_assoc]
      refine (run?_step rfl _).trans ((run?_step rfl _).trans ?_)
      refine (ih _ List.mem_cons_self _ _).trans ?_
      rw [parses_moreMembers fun m hm => ih m (List.mem_cons_of_mem _ hm)]
      rfl

/-- **The compact form of a value is read back as that value.** -/
theorem parse?_print {v : Json} (h : WellSpelt v) : parse? (print v) = some v := by
  have := parses_of_wellSpelt h [] []
  rw [List.append_nil] at this
  rw [parse?, tokens?_print h]
  exact this

end Json

end ShardClient
