import PageScript.Console.Markup
import PageScript.Proofs.Console.Breaking

namespace PageScript.Console

/-!
# Texts that markup shows as they are

A text stands for itself as markup when it has no tag, no backslash before a bracket, no
code of a picture and neither of the control characters that are left out although they
are not blank.  Any other text loses a marking character: tags, backslashes and the
colons of codes vanish, and no picture brings a marking character with it.  So the count
of the marking characters tells whether a text is shown as it is.
-/

open Text

/-! ## Marking characters -/

/-- The characters that markup, or the console itself, may take out of a text. -/
def isMarking (c : Char) : Bool :=
  ['[', '\\', ':', '\x07', '\x08'].contains c

/-- The number of marking characters of a text. -/
def markings (s : List Char) : Nat :=
  s.countP isMarking

section Markings

variable {s t : List Char} {c : Char}

theorem markings_append (s t : List Char) : markings (s ++ t) = markings s + markings t :=
  List.countP_append

theorem markings_cons_of_pos (marking : isMarking c = true) : markings (c :: s) = markings s + 1 :=
  List.countP_cons_of_pos marking

theorem markings_visible (s : List Char) : markings (visible s) = markings s := by
  rw [markings, visible, List.countP_filter]
  refine List.countP_congr fun c _ => ?_
  rw [Bool.and_eq_true, and_iff_left_iff_imp]
  intro marking
  simp only [isMarking, List.contains_iff_mem, List.mem_cons, List.not_mem_nil, or_false]
    at marking
  rcases marking with rfl | rfl | rfl | rfl | rfl <;> rfl

/-- A text that keeps its marking characters has none that the console leaves out. -/
theorem not_mem_of_markings_le
    (dropped : isDropped c = true)
    (marking : isMarking c = true)
    (kept : markings s ≤ markings (withoutControls s)) :
    c ∉ s := by
  intro member
  obtain ⟨front, back, rfl⟩ := List.append_of_mem member
  have without : withoutControls (front ++ c :: back) = withoutControls (front ++ back) := by
    rw [withoutControls, List.filter_append, List.filter_cons_of_neg (by simp [dropped]),
      ← List.filter_append]
    rfl
  have fewer : markings (withoutControls (front ++ back)) ≤ markings (front ++ back) :=
    List.filter_sublist.countP_le
  rw [without, markings_append, markings_cons_of_pos marking] at kept
  rw [markings_append] at fewer
  omega

/-- What is seen of a text without such control characters is all that is visible in it. -/
theorem seen_eq_visible
    (noBell : '\x07' ∉ s)
    (noBackspace : '\x08' ∉ s) :
    seen s = visible s := by
  rw [seen_eq, withoutControls, List.filter_eq_self]
  intro c member
  obtain ⟨inText, solid⟩ := List.mem_filter.mp member
  rw [Bool.not_eq_true', ← Bool.not_eq_true]
  intro dropped
  simp only [isDropped, Bool.or_eq_true, decide_eq_true_eq] at dropped
  rcases dropped with (((rfl | rfl) | rfl) | rfl) | rfl
  · exact noBell inText
  · exact noBackspace inText
  all_goals exact absurd solid (by decide)

/-- A text that is another one, or has fewer marking characters. -/
def Thins (s t : List Char) : Prop :=
  s = t ∨ markings s < markings t

theorem Thins.refl (s : List Char) : Thins s s :=
  .inl rfl

theorem Thins.le (thins : Thins s t) : markings s ≤ markings t :=
  thins.elim (fun same => same ▸ Nat.le_refl _) Nat.le_of_lt

theorem Thins.append
    {s' t' : List Char}
    (first : Thins s t)
    (second : Thins s' t') :
    Thins (s ++ s') (t ++ t') := by
  have firstLe := first.le
  have secondLe := second.le
  rw [Thins, markings_append, markings_append]
  rcases first with rfl | fewer
  · rcases second with rfl | fewer
    · exact .inl rfl
    · exact .inr (Nat.add_lt_add_left fewer _)
  · exact .inr (Nat.add_lt_add_of_lt_of_le fewer secondLe)

end Markings

/-! ## Pictures -/

namespace Picture

/-- Whether a byte is a blank, a sign before the digits, a digit, or beyond the basic block. -/
def isPictureByte (byte : UInt8) : Bool :=
  Nat.ble 32 byte.toNat && Nat.ble byte.toNat 57 || Nat.ble 128 byte.toNat

/-- Pictures are made of such bytes. -/
theorem isPictureByte_of_mem_pictureNames :
    (pictureNames.all fun entry => entry.2.toByteArray.data.toList.all isPictureByte) = true := by
  decide +kernel

/-- No picture has a marking character. -/
theorem markings_picture
    {entry : String × String}
    (member : entry ∈ pictureNames) :
    markings entry.2.toList = 0 := by
  refine List.countP_eq_zero.mpr fun c inPicture marking => ?_
  have bytes := List.all_eq_true.mp (List.all_eq_true.mp isPictureByte_of_mem_pictureNames _ member)
  have written :
      entry.2.toByteArray.data.toList = entry.2.toList.flatMap String.utf8EncodeChar := by
    rw [← String.utf8Encode_toList, List.utf8Encode, List.data_toByteArray]
  have encoded : ∀ byte ∈ String.utf8EncodeChar c, isPictureByte byte = true :=
    fun byte inCode => bytes byte (written ▸ List.mem_flatMap.mpr ⟨c, inPicture, inCode⟩)
  simp only [isMarking, List.contains_iff_mem, List.mem_cons, List.not_mem_nil, or_false]
    at marking
  -- Each marking character is written as one byte.
  rcases marking with rfl | rfl | rfl | rfl | rfl <;>
    exact absurd (encoded _ List.mem_cons_self) (by decide)

theorem markings_of_picture?
    {name picture : List Char}
    (found : picture? name = some picture) :
    markings picture = 0 := by
  obtain ⟨entry, search, rfl⟩ := Option.map_eq_some_iff.mp found
  exact markings_picture (List.mem_of_find?_eq_some search)

theorem markings_of_codePicture?
    {body picture : List Char}
    (found : codePicture? body = some picture) :
    markings picture = 0 := by
  rw [codePicture?] at found
  split at found
  · next form search =>
      obtain ⟨plain, named, rfl⟩ := Option.map_eq_some_iff.mp found
      have unmarked : ∀ form ∈ pictureForms, markings [form.2] = 0 := by
        decide
      rw [markings_append, markings_of_picture? named,
        unmarked form (List.mem_of_find?_eq_some search)]
  · exact markings_of_picture? found

/-- A code ends at the first colon. -/
theorem of_codeBody?_eq_some
    {s body : List Char}
    (found : codeBody? s = some body) :
    ∃ after, s = body ++ ':' :: after := by
  induction s generalizing body with
  | nil =>
      cases found
  | cons c rest inductionHypothesis =>
      rw [codeBody?] at found
      split at found
      · next colon =>
          cases found
          exact ⟨rest, by rw [colon]; rfl⟩
      · split at found
        · cases found
        · obtain ⟨inner, search, rfl⟩ := Option.map_eq_some_iff.mp found
          obtain ⟨after, division⟩ := inductionHypothesis search
          exact ⟨after, by rw [division]; rfl⟩

/-- Pictures for codes leave a text as it is or take marking characters away. -/
theorem thins_withPicturesBehind (skip : Nat) (s : List Char) :
    Thins (withPicturesBehind skip s) (s.drop skip) := by
  induction s generalizing skip with
  | nil =>
      cases skip <;> exact .refl []
  | cons c rest inductionHypothesis =>
      cases skip with
      | succ skip =>
          exact inductionHypothesis skip
      | zero =>
          rw [withPicturesBehind, List.drop_zero]
          split
          · next body found =>
              obtain ⟨rfl, search⟩ : c = ':' ∧ codeBody? rest = some body := by
                split at found
                · next colon =>
                    exact ⟨colon, found⟩
                · cases found
              obtain ⟨after, rfl⟩ := of_codeBody?_eq_some search
              have later := inductionHypothesis (body.length + 1)
              rw [List.drop_append, List.drop_eq_nil_of_le (Nat.le_succ _),
                Nat.add_sub_cancel_left] at later
              have divided : ':' :: (body ++ ':' :: after) = (':' :: body ++ [':']) ++ after := by
                simp
              rw [divided]
              cases named : codePicture? body with
              | none =>
                  exact (Thins.refl _).append later
              | some picture =>
                  refine .append (.inr ?_) later
                  rw [Option.getD_some, markings_of_codePicture? named, List.cons_append,
                    markings_cons_of_pos rfl]
                  exact Nat.succ_pos _
          · exact (Thins.refl [c]).append (inductionHypothesis 0)

theorem thins_withPictures (s : List Char) : Thins (withPictures s) s :=
  thins_withPicturesBehind 0 s

end Picture

/-! ## Tags -/

section Tags

variable {s body after : List Char} {c : Char}

theorem tagBody?_cons
    (notClosing : c ≠ ']')
    (notOpening : c ≠ '[')
    (rest : List Char) :
    tagBody? (c :: rest) = (tagBody? rest).map fun read => (c :: read.1, read.2) := by
  rw [tagBody?.eq_def]
  split
  · next same => cases same
  · next same => exact absurd (List.head_eq_of_cons_eq same) notClosing
  · next same => exact absurd (List.head_eq_of_cons_eq same) notOpening
  · next same =>
      cases same
      rfl

/-- The body of a tag goes up to a closing bracket, with no opening bracket before it. -/
theorem of_tagBody?_eq_some
    (found : tagBody? s = some (body, after)) :
    s = body ++ ']' :: after ∧ '[' ∉ body := by
  induction s generalizing body with
  | nil =>
      cases found
  | cons c rest inductionHypothesis =>
      by_cases closes : c = ']'
      · subst closes
        cases found
        exact ⟨rfl, List.not_mem_nil⟩
      by_cases opens : c = '['
      · subst opens
        cases found
      rw [tagBody?_cons closes opens] at found
      obtain ⟨⟨inner, behind⟩, search, shape⟩ := Option.map_eq_some_iff.mp found
      cases shape
      obtain ⟨division, absent⟩ := inductionHypothesis search
      refine ⟨by rw [division]; rfl, ?_⟩
      rintro (_ | ⟨_, member⟩)
      · exact opens rfl
      · exact absent member

/-- Without a body every closing bracket comes behind an opening one. -/
theorem of_tagBody?_eq_none
    (missing : tagBody? (body ++ ']' :: after) = none) :
    '[' ∈ body := by
  induction body with
  | nil =>
      cases missing
  | cons c rest inductionHypothesis =>
      by_cases opens : c = '['
      · rw [opens]
        exact List.mem_cons_self
      refine List.mem_cons_of_mem c (inductionHypothesis ?_)
      by_cases closes : c = ']'
      · subst closes
        cases missing
      rw [List.cons_append, tagBody?_cons closes opens, Option.map_eq_none_iff] at missing
      exact missing

/-- A text starts with a tag when its bracket is followed by a sign of a tag and is closed. -/
theorem of_tagAt?_eq_some
    (found : tagAt? s = some (body, after)) :
    ∃ c inner,
      body = c :: inner ∧ s = '[' :: c :: (inner ++ ']' :: after) ∧
        startsTag c = true ∧ '[' ∉ inner := by
  rw [tagAt?.eq_def] at found
  split at found
  · split at found
    · next c rest starts =>
        obtain ⟨⟨inner, behind⟩, search, shape⟩ := Option.map_eq_some_iff.mp found
        cases shape
        obtain ⟨division, absent⟩ := of_tagBody?_eq_some search
        exact ⟨c, inner, rfl, by rw [division], starts, absent⟩
    · cases found
  · cases found

theorem tagAt?_eq_none_iff :
    tagAt? s = none ↔
      ∀ c inner after,
        s = '[' :: c :: (inner ++ ']' :: after) → startsTag c = true → '[' ∈ inner := by
  constructor
  · rintro missing c inner after rfl starts
    rw [tagAt?, if_pos starts, Option.map_eq_none_iff] at missing
    exact of_tagBody?_eq_none missing
  · intro all
    rw [Option.eq_none_iff_forall_ne_some]
    rintro ⟨body, after⟩ found
    obtain ⟨c, inner, -, division, starts, absent⟩ := of_tagAt?_eq_some found
    exact absent (all c inner after division starts)

end Tags

/-! ## Pieces of markup -/

section Marks

variable {s taken : List Char} {c : Char} {fuel : Nat}

/-- No bracket of a text opens a tag: an opening one comes before the next closing one. -/
def IsTagless (s : List Char) : Prop :=
  ∀ before c inner after,
    s = before ++ '[' :: c :: (inner ++ ']' :: after) → startsTag c = true → '[' ∈ inner

theorem isTagless_nil : IsTagless [] := by
  rintro (_ | ⟨first, before⟩) c inner after division <;> cases division

theorem isTagless_cons_iff : IsTagless (c :: s) ↔ tagAt? (c :: s) = none ∧ IsTagless s := by
  rw [tagAt?_eq_none_iff]
  constructor
  · exact fun tagless =>
      ⟨fun d inner after division => tagless [] d inner after division,
        fun before d inner after division =>
          tagless (c :: before) d inner after (congrArg (c :: ·) division)⟩
  · rintro ⟨here, later⟩ (_ | ⟨first, before⟩) d inner after division
    · exact here d inner after division
    · exact later before d inner after (List.cons.inj division).2

instance decidableIsTagless : (s : List Char) → Decidable (IsTagless s)
  | [] => isTrue isTagless_nil
  | _ :: rest =>
      have := decidableIsTagless rest
      decidable_of_iff' _ isTagless_cons_iff

theorem IsTagless.tagAt?_drop
    (tagless : IsTagless s)
    (count : Nat) :
    tagAt? (s.drop count) = none := by
  refine tagAt?_eq_none_iff.mpr fun d inner after division => ?_
  refine tagless (s.take count) d inner after ?_
  rw [← division, List.take_append_drop]

/-- The text of a piece of markup; a tag has none. -/
def Mark.characters : Mark → List Char
  | .text characters => characters
  | .tag _ _ => []

/-- Dropping a backslash before each bracket takes marking characters away, if there is one. -/
theorem replaceSkipping_backslash (skip : Nat) (s : List Char) :
    (¬ ['\\', '['] <:+: s.drop skip ∧ replaceSkipping ['\\', '['] ['['] skip s = s.drop skip) ∨
      ['\\', '['] <:+: s.drop skip ∧
        markings (replaceSkipping ['\\', '['] ['['] skip s) < markings (s.drop skip) := by
  induction s generalizing skip with
  | nil =>
      cases skip <;> exact .inl ⟨by simp, rfl⟩
  | cons c rest inductionHypothesis =>
      cases skip with
      | succ skip =>
          exact inductionHypothesis skip
      | zero =>
          rw [List.drop_zero]
          by_cases here : ['\\', '['] <+: c :: rest
          · right
            obtain ⟨after, division⟩ := here
            cases division
            have later :
                markings (replaceSkipping ['\\', '['] ['['] 0 after) ≤ markings after :=
              (inductionHypothesis 1).elim (fun kept => kept.2 ▸ Nat.le_refl _)
                fun fewer => fewer.2.le
            refine ⟨(List.prefix_append _ _).isInfix, ?_⟩
            change
              markings ('[' :: replaceSkipping ['\\', '['] ['['] 0 after) <
                markings ('\\' :: '[' :: after)
            rw [markings_cons_of_pos rfl, markings_cons_of_pos rfl, markings_cons_of_pos rfl]
            exact Nat.lt_succ_of_le (Nat.succ_le_succ later)
          · rw [replaceSkipping_cons here]
            rcases inductionHypothesis 0 with ⟨absent, same⟩ | ⟨later, fewer⟩
            · refine .inl ⟨fun inside => ?_, congrArg (c :: ·) same⟩
              exact (List.infix_cons_iff.mp inside).elim here absent
            · refine .inr ⟨List.infix_cons later, ?_⟩
              rw [← List.singleton_append, markings_append, ← List.singleton_append (l := rest),
                markings_append [c] rest]
              exact Nat.add_lt_add_left fewer _

theorem characters_plainMark (taken : List Char) :
    (plainMark taken).flatMap Mark.characters =
      replaceAll ['\\', '['] ['['] taken.reverse := by
  rw [plainMark]
  split
  · next empty =>
      rw [List.isEmpty_iff.mp empty]
      rfl
  · exact List.append_nil _

theorem markings_plainMark_le (taken : List Char) :
    markings ((plainMark taken).flatMap Mark.characters) ≤ markings taken.reverse := by
  rw [characters_plainMark]
  rcases replaceSkipping_backslash 0 taken.reverse with ⟨-, same⟩ | ⟨-, fewer⟩
  · exact (congrArg markings same).le
  · exact fewer.le

/-- Backslashes at the start of a text are a run. -/
theorem replicate_backslashes_append
    {count : Nat}
    (counted : (s.takeWhile (· = '\\')).length = count) :
    List.replicate count '\\' ++ s.drop count = s := by
  subst counted
  have run : s.takeWhile (· = '\\') = List.replicate _ '\\' :=
    List.eq_replicate_of_mem fun c member => by simpa using List.mem_takeWhile_imp member
  have behind :
      s.drop (s.takeWhile (· = '\\')).length = s.dropWhile (· = '\\') := by
    have whole : s.takeWhile (· = '\\') ++ s.dropWhile (· = '\\') = s :=
      List.takeWhile_append_dropWhile
    exact (congrArg (List.drop _) whole.symm).trans List.drop_left
  rw [← run, behind, List.takeWhile_append_dropWhile]

theorem markings_replicate_backslash (count : Nat) :
    markings (List.replicate count '\\') = count :=
  List.countP_replicate

/-- What a tag behind backslashes leaves has fewer marking characters than the tag. -/
theorem markings_lt_of_tag
    (escapes position : Nat)
    (body : List Char) :
    let kept : List Mark :=
      if escapes / 2 = 0 then [] else [.text (List.replicate (escapes / 2) '\\')]
    let mark : Mark :=
      if escapes % 2 = 0 then .tag position body else .text ('[' :: body ++ [']'])
    markings (kept.flatMap Mark.characters) + markings mark.characters <
      escapes + markings ('[' :: body ++ [']']) := by
  have backslashes :
      markings
          ((if escapes / 2 = 0 then []
            else [Mark.text (List.replicate (escapes / 2) '\\')]).flatMap Mark.characters) =
        escapes / 2 := by
    split
    · next none => exact none.symm
    · exact (congrArg markings (List.flatMap_singleton _ _)).trans (markings_replicate_backslash _)
  have written : markings ('[' :: body ++ [']']) = markings body + 1 := by
    rw [markings_append, markings_cons_of_pos rfl]
    rfl
  dsimp only
  rw [backslashes, written]
  split
  · exact Nat.lt_of_le_of_lt (Nat.div_le_self escapes 2) (by omega)
  · next odd =>
      rw [Mark.characters, written]
      omega

/-- Pieces of markup have no more marking characters than the text. -/
theorem markings_le_of_marksFrom
    {position : Nat}
    (read :
      (IsTagless s ∧ marksFrom fuel position taken s = plainMark (s.reverse ++ taken)) ∨
        ¬ IsTagless s ∧
          markings ((marksFrom fuel position taken s).flatMap Mark.characters) <
            markings (taken.reverse ++ s)) :
    markings ((marksFrom fuel position taken s).flatMap Mark.characters) ≤
      markings (taken.reverse ++ s) := by
  rcases read with ⟨-, same⟩ | ⟨-, fewer⟩
  · have plain := markings_plainMark_le (s.reverse ++ taken)
    rwa [← same, List.reverse_append, List.reverse_reverse] at plain
  · exact fewer.le

/-- Markup of a text without tags is one piece of it; otherwise marking characters are lost. -/
theorem marksFrom_of_lt
    (position : Nat)
    (taken : List Char)
    (enough : s.length < fuel) :
    (IsTagless s ∧ marksFrom fuel position taken s = plainMark (s.reverse ++ taken)) ∨
      ¬ IsTagless s ∧
        markings ((marksFrom fuel position taken s).flatMap Mark.characters) <
          markings (taken.reverse ++ s) := by
  induction fuel generalizing s position taken with
  | zero =>
      exact absurd enough (Nat.not_lt_zero _)
  | succ fuel inductionHypothesis =>
      cases s with
      | nil =>
          exact .inl ⟨isTagless_nil, rfl⟩
      | cons c rest =>
          rw [marksFrom]
          dsimp only
          obtain ⟨escapes, counted⟩ :
              ∃ count, ((c :: rest).takeWhile (· = '\\')).length = count :=
            ⟨_, rfl⟩
          have run := replicate_backslashes_append counted
          rw [counted]
          split
          · next missing =>
              have here : tagAt? (c :: rest) = none := by
                cases escapes with
                | zero =>
                    exact missing
                | succ escapes =>
                    rw [← List.head_eq_of_cons_eq run]
                    refine tagAt?_eq_none_iff.mpr fun d inner after division => ?_
                    exact absurd (List.head_eq_of_cons_eq division) (by decide)
              have shape : (c :: taken).reverse ++ rest = taken.reverse ++ c :: rest := by
                rw [List.reverse_cons, List.append_assoc]
                rfl
              rw [← shape, List.reverse_cons, List.append_assoc]
              have tagless : IsTagless (c :: rest) ↔ IsTagless rest :=
                isTagless_cons_iff.trans (and_iff_right here)
              rw [tagless]
              exact
                inductionHypothesis (position + 1) (c :: taken) (Nat.lt_of_succ_lt_succ enough)
          · next body after found =>
              refine .inr ⟨fun tagless => ?_, ?_⟩
              · rw [tagless.tagAt?_drop] at found
                cases found
              obtain ⟨d, inner, rfl, division, -, -⟩ := of_tagAt?_eq_some found
              rw [division] at run
              have shape :
                  c :: rest =
                    List.replicate escapes '\\' ++ ('[' :: (d :: inner) ++ [']'] ++ after) := by
                rw [← run]
                simp
              have shorter : after.length < fuel := by
                have lengths := congrArg List.length shape
                rw [List.length_append, List.length_append, List.length_append] at lengths
                simp only [List.length_cons] at lengths enough
                omega
              have later : markings (List.flatMap _ _) ≤ markings after :=
                markings_le_of_marksFrom
                  (inductionHypothesis (position + escapes + (d :: inner).length + 2) [] shorter)
              have lost := markings_lt_of_tag escapes (position + escapes) (d :: inner)
              have before := markings_plainMark_le taken
              dsimp only at lost
              rw [List.flatMap_append, List.flatMap_append, List.flatMap_cons, markings_append,
                markings_append, markings_append, shape, markings_append, markings_append,
                markings_append, markings_replicate_backslash]
              omega

/-- A text shows itself with pictures before what the other pieces show. -/
theorem exists_of_shownBehind_text
    {opened : List OpenTag}
    {characters : List Char}
    {pieces : List Mark}
    {shown : Shown}
    (accepted : shownBehind opened (.text characters :: pieces) = .ok shown) :
    ∃ behind,
      shownBehind opened pieces = .ok behind ∧
        shown.text = Picture.withPictures characters ++ behind.text := by
  rw [shownBehind] at accepted
  cases later : shownBehind opened pieces with
  | error fault =>
      rw [later] at accepted
      cases accepted
  | ok behind =>
      rw [later] at accepted
      cases accepted
      exact ⟨behind, rfl, rfl⟩

/-- A tag shows nothing but what the other pieces show. -/
theorem exists_of_shownBehind_tag
    {opened : List OpenTag}
    {position : Nat}
    {body : List Char}
    {pieces : List Mark}
    {shown : Shown}
    (accepted : shownBehind opened (.tag position body :: pieces) = .ok shown) :
    ∃ others behind, shownBehind others pieces = .ok behind ∧ shown.text = behind.text := by
  rw [shownBehind] at accepted
  split at accepted
  · next name closes =>
      rcases closed : closedTag opened position body name with fault | ⟨tag, others⟩
      · rw [closed] at accepted
        cases accepted
      · rw [closed] at accepted
        change (tag.checkClosed >>= fun _ => shownBehind others pieces) = .ok shown at accepted
        rcases checked : tag.checkClosed with fault | done
        · rw [checked] at accepted
          cases accepted
        · rw [checked] at accepted
          exact ⟨others, shown, accepted, rfl⟩
  · rcases opens : OpenTag.ofBody body with fault | tag
    · rw [opens] at accepted
      cases accepted
    · rw [opens] at accepted
      change (shownBehind (tag :: opened) pieces >>= _) = .ok shown at accepted
      rcases later : shownBehind (tag :: opened) pieces with fault | behind
      · rw [later] at accepted
        cases accepted
      · rw [later] at accepted
        cases accepted
        exact ⟨tag :: opened, behind, later, rfl⟩

/-- What markup shows has no more marking characters than its pieces. -/
theorem markings_shownBehind_le
    {opened : List OpenTag}
    {pieces : List Mark}
    {shown : Shown}
    (accepted : shownBehind opened pieces = .ok shown) :
    markings shown.text ≤ markings (pieces.flatMap Mark.characters) := by
  induction pieces generalizing opened shown with
  | nil =>
      cases accepted
      exact Nat.le_refl _
  | cons piece rest inductionHypothesis =>
      rw [List.flatMap_cons, markings_append]
      cases piece with
      | text characters =>
          obtain ⟨behind, later, text⟩ := exists_of_shownBehind_text accepted
          rw [text, markings_append]
          exact
            Nat.add_le_add (Picture.thins_withPictures characters).le (inductionHypothesis later)
      | tag position body =>
          obtain ⟨others, behind, later, text⟩ := exists_of_shownBehind_tag accepted
          rw [text]
          exact (inductionHypothesis later).trans (Nat.le_add_left _ _)

end Marks

/-! ## Literal texts -/

section Literal

variable {s t : List Char}

/-- A text that stands for itself as markup, and that the console shows. -/
structure IsLiteral (s : List Char) : Prop where
  /-- No bracket opens a tag. -/
  tagless : IsTagless s
  /-- No backslash stands before a bracket. -/
  unescaped : ¬ ['\\', '['] <:+: s
  /-- No code stands for a picture. -/
  pictureless : Picture.withPictures s = s
  noBell : '\x07' ∉ s
  noBackspace : '\x08' ∉ s

theorem isLiteral_iff :
    IsLiteral s ↔
      IsTagless s ∧ ¬ ['\\', '['] <:+: s ∧ Picture.withPictures s = s ∧ '\x07' ∉ s ∧ '\x08' ∉ s :=
  ⟨fun ⟨tagless, unescaped, pictureless, noBell, noBackspace⟩ =>
      ⟨tagless, unescaped, pictureless, noBell, noBackspace⟩,
    fun ⟨tagless, unescaped, pictureless, noBell, noBackspace⟩ =>
      ⟨tagless, unescaped, pictureless, noBell, noBackspace⟩⟩

instance (s : List Char) : Decidable (IsLiteral s) :=
  decidable_of_iff' _ isLiteral_iff

/-- A text that is shown is what its pieces show. -/
theorem exists_of_shownText
    (accepted : shownText s = .ok t) :
    ∃ shown, shownBehind [] (marks s) = .ok shown ∧ shown.text = t := by
  rw [shownText] at accepted
  rcases read : shownBehind [] (marks s) with fault | shown
  · rw [read] at accepted
    cases accepted
  · rw [read] at accepted
    change (shown.tags.forM OpenTag.checkShown >>= fun _ => pure shown.text) = .ok t at accepted
    rcases checked : shown.tags.forM OpenTag.checkShown with fault | done
    · rw [checked] at accepted
      cases accepted
    · rw [checked] at accepted
      cases accepted
      exact ⟨shown, rfl, rfl⟩

/-- Markup without tags is shown without backslashes before brackets, with its pictures. -/
theorem shownText_of_marks
    (plain : marks s = plainMark s.reverse) :
    shownText s = .ok (Picture.withPictures (replaceAll ['\\', '['] ['['] s)) := by
  rw [shownText, plain, plainMark, List.reverse_reverse]
  cases s with
  | nil =>
      rfl
  | cons c rest =>
      rw [if_neg (by simp), shownBehind]
      change Except.ok (Picture.withPictures _ ++ []) = _
      rw [List.append_nil]

/-- Markup without tags is one piece of text; other markup loses marking characters. -/
theorem marks_cases (s : List Char) :
    (IsTagless s ∧ marks s = plainMark s.reverse) ∨
      ¬ IsTagless s ∧ markings ((marks s).flatMap Mark.characters) < markings s := by
  have read := marksFrom_of_lt 0 [] (Nat.lt_succ_self s.length)
  rwa [List.append_nil] at read

theorem IsLiteral.shownText_eq
    (literal : IsLiteral s) :
    shownText s = .ok s := by
  rcases marks_cases s with ⟨-, plain⟩ | ⟨tagged, -⟩
  · rcases replaceSkipping_backslash 0 s with ⟨-, kept⟩ | ⟨escaped, -⟩
    · rw [shownText_of_marks plain, replaceAll, if_neg (by decide), kept, List.drop_zero,
        literal.pictureless]
    · exact absurd escaped literal.unescaped
  · exact absurd literal.tagless tagged

/-- A text that is shown with all its marking characters is literal. -/
theorem isLiteral_of_markings_le
    (accepted : shownText s = .ok t)
    (kept : markings s ≤ markings (withoutControls t)) :
    IsLiteral s := by
  have fewer : markings (withoutControls t) ≤ markings t :=
    List.filter_sublist.countP_le
  rcases marks_cases s with ⟨tagless, plain⟩ | ⟨-, lost⟩
  · have shown := Except.ok.inj ((shownText_of_marks plain).symm.trans accepted)
    rw [replaceAll, if_neg (by decide)] at shown
    have thins := Picture.thins_withPictures (replaceSkipping ['\\', '['] ['['] 0 s)
    rw [shown] at thins
    rcases replaceSkipping_backslash 0 s with ⟨unescaped, same⟩ | ⟨-, lost⟩
    · rw [same, List.drop_zero] at thins shown
      rcases thins with rfl | lost
      · exact
          ⟨tagless, unescaped, shown, not_mem_of_markings_le rfl rfl kept,
            not_mem_of_markings_le rfl rfl kept⟩
      · omega
    · have later := thins.le
      rw [List.drop_zero] at lost
      omega
  · obtain ⟨shown, read, rfl⟩ := exists_of_shownText accepted
    have pieces := markings_shownBehind_le read
    omega

/-- A text is shown as it is, blanks apart, exactly when it is literal. -/
theorem seen_eq_visible_iff_isLiteral :
    (∃ t, shownText s = .ok t ∧ seen t = visible s) ↔ IsLiteral s := by
  constructor
  · rintro ⟨t, accepted, same⟩
    have counted := congrArg markings same
    rw [seen, markings_visible, markings_visible] at counted
    exact isLiteral_of_markings_le accepted counted.ge
  · exact fun literal =>
      ⟨s, literal.shownText_eq, seen_eq_visible literal.noBell literal.noBackspace⟩

/-- A bracket before a digit stands for itself, a colon before a blank as well. -/
example : IsLiteral "row[0]: gone".toList ∧ ¬ IsLiteral "see [draft]".toList := by
  decide +kernel

end Literal

/-! ## Printed markings -/

section Printed

variable {width : Nat} {s : List Char}

theorem markings_flatMap_le
    {α : Type}
    {items : List α}
    {first second : α → List Char}
    (each : ∀ item ∈ items, markings (first item) ≤ markings (second item)) :
    markings (items.flatMap first) ≤ markings (items.flatMap second) := by
  induction items with
  | nil =>
      exact Nat.le_refl _
  | cons item rest inductionHypothesis =>
      obtain ⟨here, later⟩ := List.forall_mem_cons.mp each
      rw [List.flatMap_cons, List.flatMap_cons, markings_append, markings_append]
      exact Nat.add_le_add here (inductionHypothesis later)

theorem markings_replicate_blank (count : Nat) : markings (List.replicate count ' ') = 0 :=
  List.countP_replicate

theorem markings_takeClusters_le (cells : Nat) (clusters : List Cluster) :
    markings (takeClusters cells clusters) ≤
      markings (clusters.flatMap Cluster.characters) := by
  induction clusters generalizing cells with
  | nil =>
      cases cells with
      | zero =>
          exact Nat.le_refl _
      | succ cells =>
          exact (markings_replicate_blank _).le
  | cons cluster rest inductionHypothesis =>
      cases cells with
      | zero =>
          exact Nat.zero_le _
      | succ cells =>
          rw [takeClusters_succ_cons, List.flatMap_cons, markings_append]
          split
          · rw [markings_append]
            exact Nat.add_le_add_left (inductionHypothesis _) _
          · rw [markings_replicate_blank]
            exact Nat.zero_le _

theorem markings_aligned_cropEnd_le (width : Nat) (s : List Char) :
    markings (aligned .free .fold width (cropEnd width s)) ≤ markings s := by
  have cropped : markings (cropEnd width s) ≤ markings s :=
    (List.take_sublist _ s).countP_le
  rw [aligned, cut]
  split
  · exact cropped
  · refine (markings_takeClusters_le width _).trans ?_
    rwa [characters_clusters]

theorem markings_arranged_le (width : Nat) (s : List Char) :
    markings (arranged width s).flatten ≤ markings s := by
  have parts :
      markings
          ((brokenLines width true (expandTabs s)).flatMap fun part =>
            aligned .free .fold width (cropEnd width part)) ≤
        markings ((brokenLines width true (expandTabs s)).flatMap id) :=
    markings_flatMap_le fun part _ => markings_aligned_cropEnd_le width part
  have tabs : markings (expandTabs s) = markings s := by
    rw [← markings_visible, visible_expandTabs, markings_visible]
  rw [List.flatMap_id, flatten_brokenLines, tabs] at parts
  exact parts

/-- The lines of a text have no more marking characters than what is seen of the text. -/
theorem markings_lines_le (width : Nat) (s : List Char) :
    markings (({ width := width } : Arrangement).lines s).flatten ≤ markings (seen s) := by
  have pieces :
      markings
          ((splitAt '\n' (withoutControls s)).flatMap fun piece =>
            (arranged width piece).flatMap id) ≤
        markings ((splitAt '\n' (withoutControls s)).flatMap visible) :=
    markings_flatMap_le fun piece _ => by
      rw [List.flatMap_id, markings_visible]
      exact markings_arranged_le width piece
  rw [visible_splitAt rfl] at pieces
  rw [lines_eq, ← List.flatMap_id, List.flatMap_assoc]
  exact pieces

theorem markings_printed_le
    {pieces : List Piece}
    {texts lines : List (List Char)}
    (shown : pieces.mapM Piece.shown = .ok texts)
    (prints : printed pieces = .ok lines) :
    markings lines.flatten ≤ markings (texts.flatMap seen) := by
  rw [printed, shown] at prints
  obtain rfl := Except.ok.inj prints
  rw [← seen_joinWith]
  exact markings_lines_le consoleWidth _

end Printed

end PageScript.Console
