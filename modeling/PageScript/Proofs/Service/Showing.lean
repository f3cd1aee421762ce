import PageScript.Proofs.Console.Markup
import PageScript.Service.Build
import PageScript.Service.Display

namespace PageScript.Service

/-!
# What people see of failures and of copies

The message of a failure and the line of a copy are printed as markup.  A report is shown
when the markup of all its lines is accepted, and people then see the message, and each
copy, exactly as they are written when these are literal.
-/

open Console Text

/-- Whether lines can be shown. -/
def IsShown (lines : Shown) : Prop :=
  ∃ shown, lines = .ok shown

/-! ## Lines in order -/

section InOrder

variable {parts : List (List (List Char))} {sections : List Shown} {lines : List (List Char)}

theorem mapM_id_map_ok (parts : List (List (List Char))) :
    (parts.map Except.ok : List Shown).mapM id = .ok parts := by
  induction parts with
  | nil =>
      rfl
  | cons own rest inductionHypothesis =>
      rw [List.map_cons, List.mapM_cons, inductionHypothesis]
      rfl

theorem eq_map_ok_of_mapM_id
    (shown : sections.mapM id = .ok parts) :
    sections = parts.map Except.ok := by
  induction sections generalizing parts with
  | nil =>
      cases shown
      rfl
  | cons first rest inductionHypothesis =>
      rw [List.mapM_cons] at shown
      cases first with
      | error fault =>
          cases shown
      | ok own =>
          cases later : rest.mapM id with
          | error fault =>
              rw [later] at shown
              cases shown
          | ok others =>
              rw [later] at shown
              cases shown
              rw [inductionHypothesis later]
              rfl

theorem inOrder_eq_ok_iff :
    inOrder sections = .ok lines ↔
      ∃ parts : List (List (List Char)), sections = parts.map .ok ∧ lines = parts.flatten := by
  rw [inOrder]
  constructor
  · intro shown
    cases read : sections.mapM id with
    | error fault =>
        rw [read] at shown
        cases shown
    | ok parts =>
        rw [read] at shown
        cases shown
        exact ⟨parts, eq_map_ok_of_mapM_id read, rfl⟩
  · rintro ⟨parts, rfl, rfl⟩
    rw [mapM_id_map_ok]
    rfl

/-- Lines one after the other can be shown when all of them can. -/
theorem isShown_inOrder_iff :
    IsShown (inOrder sections) ↔ ∀ part ∈ sections, IsShown part := by
  constructor
  · rintro ⟨lines, shown⟩ part member
    obtain ⟨parts, rfl, -⟩ := inOrder_eq_ok_iff.mp shown
    obtain ⟨own, -, rfl⟩ := List.mem_map.mp member
    exact ⟨own, rfl⟩
  · intro each
    induction sections with
    | nil =>
        exact ⟨[], rfl⟩
    | cons first rest inductionHypothesis =>
        obtain ⟨⟨own, rfl⟩, later⟩ := List.forall_mem_cons.mp each
        obtain ⟨lines, shown⟩ := inductionHypothesis later
        obtain ⟨parts, rfl, -⟩ := inOrder_eq_ok_iff.mp shown
        exact ⟨_, inOrder_eq_ok_iff.mpr ⟨own :: parts, rfl, rfl⟩⟩

/-- Joining lines to one text keeps their visible characters. -/
theorem visible_joinedText (lines : List (List Char)) :
    visible (joinedText lines).toList = visible lines.flatten := by
  have lineEnds :
      ∀ s : List Char, visible (s.reverse.dropWhile (· = '\n')).reverse = visible s := by
    intro s
    have whole :
        (s.reverse.dropWhile (· = '\n')).reverse ++ (s.reverse.takeWhile (· = '\n')).reverse =
          s := by
      rw [← List.reverse_append, List.takeWhile_append_dropWhile, List.reverse_reverse]
    have blank : ∀ c ∈ (s.reverse.takeWhile (· = '\n')).reverse, isBlank c = true := by
      intro c member
      have lineEnd : c = '\n' := by
        simpa using List.mem_takeWhile_imp (List.mem_reverse.mp member)
      rw [lineEnd]
      rfl
    conv_rhs => rw [← whole, visible_append, visible_of_blank blank, List.append_nil]
  rw [joinedText, String.toList_ofList, lineEnds, visible_joinWith rfl, visible_flatten]

theorem visible_flatten_parts
    (front : List (List (List Char)))
    (lines : List (List Char))
    (back : List (List (List Char))) :
    visible (front ++ lines :: back).flatten.flatten =
      visible front.flatten.flatten ++ visible lines.flatten ++ visible back.flatten.flatten := by
  rw [List.flatten_append, List.flatten_cons, List.flatten_append, List.flatten_append,
    visible_append, visible_append, List.append_assoc]

end InOrder

/-! ## Printed markup -/

section Markup

variable {literals : List String} {message : String} {shown : List Char}

/-- Whether a text is accepted as markup. -/
def IsAccepted (message : String) : Prop :=
  ∃ shown, shownText message.toList = .ok shown

/-- What is printed at once when markup stands behind literal texts. -/
def labelled (literals : List String) (message : String) : List Piece :=
  literals.map .literal ++ [.markup message]

theorem display_eq_ok_iff
    {pieces : List Piece}
    {lines : List (List Char)} :
    display pieces = .ok lines ↔ printed pieces = .ok lines := by
  rw [display]
  cases printed pieces <;> simp [Except.mapError]

theorem mapM_shown_literals (literals : List String) :
    (literals.map Piece.literal).mapM Piece.shown = .ok (literals.map String.toList) := by
  induction literals with
  | nil =>
      rfl
  | cons first rest inductionHypothesis =>
      rw [List.map_cons, List.mapM_cons, inductionHypothesis]
      rfl

theorem mapM_shown_labelled (literals : List String) (message : String) :
    (labelled literals message).mapM Piece.shown =
      (shownText message.toList).map fun shown => literals.map String.toList ++ [shown] := by
  rw [labelled, List.mapM_append, mapM_shown_literals, List.mapM_cons, List.mapM_nil, Piece.shown]
  cases shownText message.toList <;> rfl

theorem isShown_display_literals (literals : List String) :
    IsShown (display (literals.map .literal)) := by
  obtain ⟨lines, prints⟩ := printed_eq_ok_iff.mpr ⟨_, mapM_shown_literals literals⟩
  exact ⟨lines, display_eq_ok_iff.mpr prints⟩

/-- Lines with markup are shown when the markup is accepted. -/
theorem isShown_display_labelled_iff :
    IsShown (display (labelled literals message)) ↔ IsAccepted message := by
  have same :
      IsShown (display (labelled literals message)) ↔
        ∃ lines, printed (labelled literals message) = .ok lines :=
    exists_congr fun _ => display_eq_ok_iff
  rw [same, printed_eq_ok_iff, mapM_shown_labelled]
  exact exists_bind_eq_ok_iff fun _ => ⟨_, rfl⟩

/-- People see of accepted markup what it shows. -/
theorem visible_display_labelled
    {lines : List (List Char)}
    (accepted : shownText message.toList = .ok shown)
    (literalsSteady : ∀ text ∈ literals, isSteady text.toList = true)
    (steady : isSteady shown = true)
    (prints : display (labelled literals message) = .ok lines) :
    visible lines.flatten = literals.flatMap (fun text => seen text.toList) ++ seen shown := by
  have texts :
      (labelled literals message).mapM Piece.shown =
        .ok (literals.map String.toList ++ [shown]) := by
    rw [mapM_shown_labelled, accepted]
    rfl
  have each : ∀ text ∈ literals.map String.toList ++ [shown], isSteady text = true :=
    List.forall_mem_append.mpr
      ⟨List.forall_mem_map.mpr literalsSteady, List.forall_mem_singleton.mpr steady⟩
  obtain ⟨others, printed, sees⟩ := exists_printed texts each
  obtain rfl := Except.ok.inj ((display_eq_ok_iff.mp prints).symm.trans printed)
  rw [sees, List.flatMap_append, List.flatMap_map, List.flatMap_singleton]

/-- People see markup as it is written exactly when it is literal. -/
theorem exists_display_verbatim_iff
    (literalsSteady : ∀ text ∈ literals, isSteady text.toList = true)
    (steady : isSteady message.toList = true) :
    (∃ lines,
        display (labelled literals message) = .ok lines ∧
          visible lines.flatten =
            literals.flatMap (fun text => seen text.toList) ++ visible message.toList) ↔
      IsLiteral message.toList := by
  constructor
  · rintro ⟨lines, prints, sees⟩
    obtain ⟨shown, accepted⟩ := isShown_display_labelled_iff.mp ⟨lines, prints⟩
    have texts :
        (labelled literals message).mapM Piece.shown =
          .ok (literals.map String.toList ++ [shown]) := by
      rw [mapM_shown_labelled, accepted]
      rfl
    have fewer := markings_printed_le texts (display_eq_ok_iff.mp prints)
    rw [← markings_visible, sees, List.flatMap_append, List.flatMap_map, List.flatMap_singleton,
      markings_append, markings_append, markings_visible, seen, markings_visible] at fewer
    exact isLiteral_of_markings_le accepted (Nat.le_of_add_le_add_left fewer)
  · intro literal
    obtain ⟨lines, prints⟩ :=
      isShown_display_labelled_iff.mpr ⟨_, literal.shownText_eq⟩
    refine ⟨lines, prints, ?_⟩
    rw [visible_display_labelled literal.shownText_eq literalsSteady steady prints,
      seen_eq_visible literal.noBell literal.noBackspace]

end Markup

/-! ## Reports for people -/

section Reports

variable {report : Report} {detailed : Bool} {text : String}

/-- A report for people is the text of its lines. -/
theorem plainText_eq_ok_iff :
    report.plainText detailed = .ok text ↔
      ∃ parts : List (List (List Char)),
        reportLines detailed report = parts.map .ok ∧ joinedText parts.flatten = text := by
  rw [Report.plainText]
  constructor
  · intro told
    cases shown : inOrder (reportLines detailed report) with
    | error fault =>
        rw [shown] at told
        cases told
    | ok lines =>
        rw [shown] at told
        obtain ⟨parts, divided, rfl⟩ := inOrder_eq_ok_iff.mp shown
        exact ⟨parts, divided, Except.ok.inj told⟩
  · rintro ⟨parts, divided, rfl⟩
    rw [inOrder_eq_ok_iff.mpr ⟨parts, divided, rfl⟩]
    rfl

theorem exists_plainText_iff :
    (∃ text, report.plainText detailed = .ok text) ↔
      ∀ part ∈ reportLines detailed report, IsShown part := by
  rw [← isShown_inOrder_iff, Report.plainText]
  exact exists_bind_eq_ok_iff fun _ => ⟨_, rfl⟩

/-- What people see of a part of the lines stands in the text between what else they see. -/
theorem exists_visible_of_parts
    {before after : List Shown}
    {shown : Shown}
    (divided : reportLines detailed report = before ++ shown :: after)
    (told : report.plainText detailed = .ok text) :
    ∃ (front : List (List (List Char))) (lines : List (List Char))
      (back : List (List (List Char))),
      before = front.map .ok ∧ shown = .ok lines ∧ after = back.map .ok ∧
        visible text.toList =
          visible front.flatten.flatten ++ visible lines.flatten ++
            visible back.flatten.flatten := by
  obtain ⟨parts, read, rfl⟩ := plainText_eq_ok_iff.mp told
  rw [divided] at read
  obtain ⟨front, others, rfl, first, later⟩ := List.append_eq_map_iff.mp read
  obtain ⟨lines, back, rfl, here, behind⟩ := List.map_eq_cons_iff.mp later
  refine ⟨front, lines, back, first.symm, here.symm, behind.symm, ?_⟩
  rw [visible_joinedText, visible_flatten_parts]

end Reports

/-! ## Failures -/

section Failures

variable {report : Report} {detailed : Bool} {text : String}

/-- What the line of a failure says before the message. -/
def failureLabels (report : Report) : List String :=
  ["ERROR", "  " ++ report.operation, " — "]

/-- The line of an entry of the detail of a failure. -/
def detailText (entry : String × Value) : String :=
  "    " ++ entry.1 ++ ": " ++ entry.2.displayString

theorem reportLines_of_failure (failed : report.succeeded = false) :
    reportLines detailed report =
      display (labelled (failureLabels report) report.errorMessage) ::
        if detailed && !report.errorDetail.isEmpty then
          display (["  detail:"].map .literal) ::
            report.errorDetail.map fun entry => display (labelled [] (detailText entry))
        else
          [] := by
  rw [reportLines, failed]
  rfl

/-- A failure is shown when its message is accepted and, in detail, every entry of its detail. -/
theorem exists_plainText_of_failure_iff (failed : report.succeeded = false) :
    (∃ text, report.plainText detailed = .ok text) ↔
      IsAccepted report.errorMessage ∧
        (detailed = true → ∀ entry ∈ report.errorDetail, IsAccepted (detailText entry)) := by
  rw [exists_plainText_iff, reportLines_of_failure failed, List.forall_mem_cons,
    isShown_display_labelled_iff]
  refine and_congr_right fun _ => ?_
  cases detailed with
  | false =>
      exact iff_of_true (List.forall_mem_nil _) fun detailed => (nomatch detailed)
  | true =>
      have entries :
          (∀ part ∈
              report.errorDetail.map fun entry => display (labelled [] (detailText entry)),
              IsShown part) ↔
            ∀ entry ∈ report.errorDetail, IsAccepted (detailText entry) :=
        List.forall_mem_map.trans
          (forall₂_congr fun entry _ => isShown_display_labelled_iff)
      rw [Bool.true_and, imp_iff_right rfl]
      split
      · rw [List.forall_mem_cons, entries]
        exact and_iff_right (isShown_display_literals _)
      · next none =>
          have empty : report.errorDetail = [] := by simpa using none
          rw [empty]
          exact iff_of_true (List.forall_mem_nil _) (List.forall_mem_nil _)

theorem isSteady_of_mem_failureLabels
    (steady : isSteady report.operation.toList = true) :
    ∀ label ∈ failureLabels report, isSteady label.toList = true := by
  have indented : isSteady ("  " ++ report.operation).toList = true := by
    rw [String.toList_append]
    exact (isSteady_cons_iff rfl).mpr ((isSteady_cons_iff rfl).mpr steady)
  intro label member
  simp only [failureLabels, List.mem_cons, List.not_mem_nil, or_false] at member
  rcases member with rfl | rfl | rfl
  · decide +kernel
  · exact indented
  · decide +kernel

/-- What people see of a failure: its labels, its message and, in detail, what stands behind. -/
theorem exists_visible_of_failure
    (failed : report.succeeded = false)
    (told : report.plainText detailed = .ok text) :
    ∃ lines back,
      display (labelled (failureLabels report) report.errorMessage) = .ok lines ∧
        visible text.toList = visible lines.flatten ++ back ∧
          (detailed = false → back = []) := by
  have divided : reportLines detailed report = [] ++ _ :: _ := reportLines_of_failure failed
  obtain ⟨front, lines, back, first, prints, behind, sees⟩ :=
    exists_visible_of_parts divided told
  obtain rfl := List.map_eq_nil_iff.mp first.symm
  refine ⟨lines, visible back.flatten.flatten, prints, sees, ?_⟩
  rintro rfl
  obtain rfl := List.map_eq_nil_iff.mp behind.symm
  rfl

/-- Whether people see the status of a failure and then its message as it is written. -/
def ShowsMessage (report : Report) : Prop :=
  ∃ text,
    report.plainText false = .ok text ∧
      visible text.toList =
        (failureLabels report).flatMap (fun label => seen label.toList) ++
          visible report.errorMessage.toList

/-- The message of a failure is shown as it is written exactly when it is literal. -/
theorem showsMessage_iff_isLiteral
    (failed : report.succeeded = false)
    (operationSteady : isSteady report.operation.toList = true)
    (steady : isSteady report.errorMessage.toList = true) :
    ShowsMessage report ↔ IsLiteral report.errorMessage.toList := by
  have labels := isSteady_of_mem_failureLabels operationSteady
  rw [ShowsMessage, ← exists_display_verbatim_iff labels steady]
  constructor
  · rintro ⟨text, told, sees⟩
    obtain ⟨lines, back, prints, divided, none⟩ := exists_visible_of_failure failed told
    rw [none rfl, List.append_nil] at divided
    exact ⟨lines, prints, divided.symm.trans sees⟩
  · rintro ⟨lines, prints, sees⟩
    have accepted := isShown_display_labelled_iff.mp ⟨lines, prints⟩
    obtain ⟨text, told⟩ : ∃ text, report.plainText false = .ok text :=
      (exists_plainText_of_failure_iff failed).mpr
        ⟨accepted, fun detailed => (nomatch detailed)⟩
    obtain ⟨others, back, printed, divided, none⟩ := exists_visible_of_failure failed told
    obtain rfl := Except.ok.inj (prints.symm.trans printed)
    rw [none rfl, List.append_nil] at divided
    exact ⟨text, told, divided.trans sees⟩

/-- A literal message is seen as it is written. -/
theorem message_infix_of_isLiteral
    (failed : report.succeeded = false)
    (operationSteady : isSteady report.operation.toList = true)
    (steady : isSteady report.errorMessage.toList = true)
    (literal : IsLiteral report.errorMessage.toList)
    (told : report.plainText detailed = .ok text) :
    visible report.errorMessage.toList <:+: visible text.toList := by
  have labels := isSteady_of_mem_failureLabels operationSteady
  obtain ⟨lines, prints, sees⟩ := (exists_display_verbatim_iff labels steady).mpr literal
  obtain ⟨others, back, printed, divided, -⟩ := exists_visible_of_failure failed told
  obtain rfl := Except.ok.inj (prints.symm.trans printed)
  exact ⟨_, back, by rw [divided, sees]⟩

end Failures

/-! ## Copies -/

section Copies

/-- The line of a copy. -/
def copyText (copy : String × String) : String :=
  "    " ++ copy.1 ++ " -> " ++ copy.2

/-- The lines of copies, one copy after the other. -/
def copySections (copies : List (String × String)) : List Shown :=
  copies.map fun copy => display (labelled [] (copyText copy))

theorem copyLine_record (copy : String × String) :
    copyLine (Value.record [("from", .text copy.1), ("to", .text copy.2)]) =
      display (labelled [] (copyText copy)) := by
  have source :
      indexed (Value.record [("from", .text copy.1), ("to", .text copy.2)]) "from" =
        pure (.text copy.1) :=
    rfl
  have destination :
      indexed (Value.record [("from", .text copy.1), ("to", .text copy.2)]) "to" =
        pure (.text copy.2) :=
    rfl
  have same : ∀ written : String, (Value.text written).displayString = written :=
    fun written => String.ofList_toList
  rw [copyLine, source, pure_bind, destination, pure_bind, same, same]
  rfl

/-- The lines of copies that are shown in detail: their number, and all of them. -/
theorem copyLines_pairRecords (copies : List (String × String)) :
    copyLines true (pairRecords "from" "to" copies) =
      [fieldLines "copies" (Value.count copies.length), inOrder (copySections copies)] := by
  have records :
      (copies.map fun copy => Value.record [("from", .text copy.1), ("to", .text copy.2)]).map
          copyLine =
        copySections copies := by
    rw [List.map_map]
    exact List.map_congr_left fun copy _ => copyLine_record copy
  rw [← records, copyLines, pairRecords]
  change [fieldLines "copies" (Value.count (copies.map _).length), _] = _
  rw [List.length_map]
  rfl

/-- Texts with commas between them can be shown when they are texts. -/
theorem exists_textsFrom_iff (position : Nat) (items : List Value) :
    (∃ texts, textsFrom position items = .ok texts) ↔
      ∀ item ∈ items, ∃ written, item = .text written := by
  induction items generalizing position with
  | nil =>
      exact iff_of_true ⟨[], rfl⟩ (List.forall_mem_nil _)
  | cons item rest inductionHypothesis =>
      rw [List.forall_mem_cons, ← inductionHypothesis (position + 1)]
      cases item with
      | text written =>
          rw [textsFrom, and_iff_right ⟨written, rfl⟩]
          exact exists_bind_eq_ok_iff fun _ => ⟨_, rfl⟩
      | _ =>
          refine iff_of_false (fun found => (nomatch found.choose_spec)) fun found => ?_
          exact (nomatch found.1.choose_spec)

end Copies

/-! ## Builds -/

section Builds

variable
  {report : Report}
  {name text : String}
  {value : Value}
  {lines : Value → List Shown}

theorem isShown_fieldLines (name : String) (value : Value) : IsShown (fieldLines name value) :=
  isShown_display_literals ["  " ++ name ++ ": ", fieldText name value]

theorem isShown_of_mem_givenFields
    (report : Report)
    (names : List String) :
    ∀ part ∈ givenFields report names, IsShown part := by
  intro part member
  obtain ⟨name, -, given⟩ := List.mem_filterMap.mp member
  obtain ⟨value, -, rfl⟩ := Option.map_eq_some_iff.mp given
  exact isShown_fieldLines name value

theorem isTruthy_list_of_mem
    {item : Value}
    {items : List Value}
    (member : item ∈ items) :
    (Value.list items).isTruthy = true := by
  cases items with
  | nil =>
      cases member
  | cons first rest =>
      rfl

/-- The lines for a field only matter when the field counts as true. -/
theorem forall_mem_whenTruthy_iff
    {holds : Shown → Prop}
    (has : report.field? name = some value) :
    (∀ part ∈ whenTruthy report name lines, holds part) ↔
      (value.isTruthy = true → ∀ part ∈ lines value, holds part) := by
  rw [whenTruthy, has]
  dsimp only
  split
  · next truthy =>
      rw [imp_iff_right truthy]
  · next falsy =>
      exact iff_of_true (List.forall_mem_nil _) fun truthy => absurd truthy falsy

theorem isShown_of_mem_joinedLines_iff
    {items : List Value} :
    (∀ part ∈ joinedLines name (.list items), IsShown part) ↔
      ∀ item ∈ items, ∃ written, item = .text written := by
  rw [joinedLines, List.forall_mem_singleton, ← exists_textsFrom_iff 0]
  change
    IsShown (((textsFrom 0 items).map (String.intercalate ", ")) >>= fun written =>
      fieldLines name (.text written)) ↔ _
  rw [IsShown, exists_bind_eq_ok_iff fun written => isShown_fieldLines name (.text written)]
  exact exists_bind_eq_ok_iff fun _ => ⟨_, rfl⟩

theorem isShown_of_mem_frameworkLines (frameworks : List (String × String)) :
    ∀ part ∈ frameworkLines (pairRecords "name" "version" frameworks), IsShown part := by
  have named :
      ∃ texts,
        (frameworks.map fun framework =>
            Value.record
              [("name", .text framework.1), ("version", .text framework.2)]).mapM frameworkText =
          .ok texts := by
    induction frameworks with
    | nil =>
        exact ⟨[], rfl⟩
    | cons framework rest inductionHypothesis =>
        obtain ⟨texts, others⟩ := inductionHypothesis
        refine
          ⟨((Value.text framework.1).displayString ++ " " ++
            (Value.text framework.2).displayString) :: texts, ?_⟩
        rw [List.map_cons, List.mapM_cons, others]
        rfl
  obtain ⟨texts, named⟩ := named
  refine List.forall_mem_singleton.mpr ?_
  change
    IsShown (((frameworks.map fun framework =>
      Value.record
        [("name", .text framework.1), ("version", .text framework.2)]).mapM frameworkText) >>=
          fun texts => fieldLines "frameworks" (.text (String.intercalate ", " texts)))
  rw [named]
  exact isShown_fieldLines "frameworks" _

/-- Whether a report is of a build that succeeded and tells of copies. -/
structure TellsOfCopies (report : Report) (copies : List (String × String)) : Prop where
  /-- The build succeeded. -/
  succeeded : report.succeeded = true
  /-- The report is of a build. -/
  operation : report.operation = "build"
  /-- The report has the copies as a field. -/
  has : report.field? "copies" = some (pairRecords "from" "to" copies)

/-- The lines of a build before its copies. -/
def linesBeforeCopies (report : Report) : List Shown :=
  statusLines "build" ::
    (givenFields report ["source", "base_dir", "commands"] ++
      whenTruthy report "targets" (joinedLines "targets") ++
      whenTruthy report "frameworks" frameworkLines)

/-- The lines of a build in detail behind its copies. -/
def linesBehindCopies (report : Report) : List Shown :=
  whenTruthy report "components" (joinedLines "components") ++
    whenTruthy report "variables" (fun value => [fieldLines "variables" value]) ++
    givenFields report ["html"] ++
    extraLines report

variable {copies : List (String × String)}

/-- Whether the lines of a copy show it as it is written. -/
def ShowsCopy (copy : String × String) : Prop :=
  ∃ lines,
    display (labelled [] (copyText copy)) = .ok lines ∧
      visible lines.flatten = visible (copyText copy).toList

/-- The lines of a copy show it as it is written exactly when it is literal. -/
theorem showsCopy_iff_isLiteral
    {copy : String × String}
    (steady : isSteady (copyText copy).toList = true) :
    ShowsCopy copy ↔ IsLiteral (copyText copy).toList :=
  exists_display_verbatim_iff (List.forall_mem_nil _) steady

namespace TellsOfCopies

variable (tells : TellsOfCopies report copies)

include tells

theorem reportLines_eq :
    reportLines true report =
      linesBeforeCopies report ++ whenTruthy report "copies" (copyLines true) ++
        linesBehindCopies report := by
  rw [reportLines, tells.succeeded, tells.operation, dataLines, tells.operation]
  simp only [buildLines, linesBeforeCopies, linesBehindCopies, List.cons_append,
    List.append_assoc, if_true]

theorem isShown_of_copies_iff :
    (∀ part ∈ whenTruthy report "copies" (copyLines true), IsShown part) ↔
      ∀ copy ∈ copies, IsAccepted (copyText copy) := by
  have each :
      (∀ part ∈ copySections copies, IsShown part) ↔
        ∀ copy ∈ copies, IsAccepted (copyText copy) :=
    List.forall_mem_map.trans (forall₂_congr fun copy _ => isShown_display_labelled_iff)
  rw [forall_mem_whenTruthy_iff tells.has, copyLines_pairRecords, List.forall_mem_cons,
    List.forall_mem_singleton, isShown_inOrder_iff, each, and_iff_right (isShown_fieldLines _ _)]
  refine ⟨fun shown copy member => shown ?_ copy member, fun accepted _ => accepted⟩
  exact isTruthy_list_of_mem (List.mem_map_of_mem member)

/-- A build is shown in detail when the line of every copy is accepted, and all other lines. -/
theorem exists_plainText_iff :
    (∃ text, report.plainText true = .ok text) ↔
      (∀ copy ∈ copies, IsAccepted (copyText copy)) ∧
        ∀ part ∈ linesBeforeCopies report ++ linesBehindCopies report, IsShown part := by
  rw [Service.exists_plainText_iff, tells.reportLines_eq]
  simp only [List.forall_mem_append]
  rw [tells.isShown_of_copies_iff]
  constructor
  · rintro ⟨⟨before, accepted⟩, behind⟩
    exact ⟨accepted, before, behind⟩
  · rintro ⟨accepted, before, behind⟩
    exact ⟨⟨before, accepted⟩, behind⟩

/-- People see the lines of the copies, one copy after the other, between what else they see. -/
theorem exists_visible (told : report.plainText true = .ok text) :
    ∃ (front back : List Char) (parts : List (List (List Char))),
      copySections copies = parts.map .ok ∧
        visible text.toList = front ++ visible parts.flatten.flatten ++ back := by
  cases copies with
  | nil =>
      exact ⟨visible text.toList, [], [], rfl, by simp [visible]⟩
  | cons copy rest =>
      have truthy : (pairRecords "from" "to" (copy :: rest)).isTruthy = true :=
        rfl
      have printed :
          inOrder (copySections (copy :: rest)) ∈
            whenTruthy report "copies" (copyLines true) := by
        rw [whenTruthy, tells.has]
        dsimp only
        rw [if_pos truthy, copyLines_pairRecords]
        exact List.mem_cons_of_mem _ List.mem_cons_self
      have member : inOrder (copySections (copy :: rest)) ∈ reportLines true report := by
        rw [tells.reportLines_eq]
        exact List.mem_append_left _ (List.mem_append_right _ printed)
      obtain ⟨before, after, divided⟩ := List.append_of_mem member
      obtain ⟨front, lines, back, -, shown, -, sees⟩ := exists_visible_of_parts divided told
      obtain ⟨parts, read, rfl⟩ := inOrder_eq_ok_iff.mp shown
      exact ⟨_, _, parts, read, sees⟩

/-- A literal copy is seen as it is written. -/
theorem infix_of_isLiteral
    {copy : String × String}
    (member : copy ∈ copies)
    (steady : isSteady (copyText copy).toList = true)
    (literal : IsLiteral (copyText copy).toList)
    (told : report.plainText true = .ok text) :
    visible (copyText copy).toList <:+: visible text.toList := by
  obtain ⟨front, back, parts, read, sees⟩ := tells.exists_visible told
  obtain ⟨lines, prints, shown⟩ := (showsCopy_iff_isLiteral steady).mpr literal
  have inSections : display (labelled [] (copyText copy)) ∈ copySections copies :=
    List.mem_map_of_mem member
  rw [prints, read] at inSections
  obtain ⟨own, inParts, same⟩ := List.mem_map.mp inSections
  obtain rfl := Except.ok.inj same
  obtain ⟨before, after, rfl⟩ := List.append_of_mem inParts
  refine
    ⟨front ++ visible before.flatten.flatten, visible after.flatten.flatten ++ back, ?_⟩
  rw [sees, ← shown, visible_flatten_parts]
  simp only [List.append_assoc]

end TellsOfCopies

/-- The report of a build that was executed to its end. -/
def builtReport
    (built : Built)
    (source : String)
    (base : World.Path)
    (warnings : List String)
    (extra : Option (List (String × Value))) :
    Report :=
  { succeeded := true
    operation := "build"
    data := built.data source base
    warnings := warnings
    extra := extra }

variable
  (built : Built)
  (source : String)
  (base : World.Path)
  (warnings : List String)
  (extra : Option (List (String × Value)))

theorem tellsOfCopies_builtReport :
    TellsOfCopies (builtReport built source base warnings extra) built.scene.record.copies :=
  ⟨rfl, rfl, rfl⟩

theorem isShown_of_components_iff :
    (∀ part ∈
        whenTruthy (builtReport built source base warnings extra) "components"
          (joinedLines "components"),
        IsShown part) ↔
      ∀ name ∈ built.scene.context.store.components.keys,
        ∃ written, name = .text written := by
  have has :
      (builtReport built source base warnings extra).field? "components" =
        some (.list built.scene.context.store.components.keys) :=
    rfl
  rw [forall_mem_whenTruthy_iff has, isShown_of_mem_joinedLines_iff]
  exact
    ⟨fun shown name member => shown (isTruthy_list_of_mem member) name member,
      fun written _ => written⟩

theorem isShown_of_mem_linesBeforeCopies :
    ∀ part ∈ linesBeforeCopies (builtReport built source base warnings extra),
      IsShown part := by
  have targets :
      ∀ part ∈
        whenTruthy (builtReport built source base warnings extra) "targets"
          (joinedLines "targets"),
        IsShown part :=
    (forall_mem_whenTruthy_iff rfl).mpr fun _ =>
      isShown_of_mem_joinedLines_iff.mpr
        (List.forall_mem_map.mpr fun written _ => ⟨written, rfl⟩)
  have frameworks :
      ∀ part ∈
        whenTruthy (builtReport built source base warnings extra) "frameworks" frameworkLines,
        IsShown part :=
    (forall_mem_whenTruthy_iff rfl).mpr fun _ => isShown_of_mem_frameworkLines _
  have status : IsShown (statusLines "build") := isShown_display_literals ["OK", "  build"]
  rw [linesBeforeCopies, List.forall_mem_cons, List.forall_mem_append, List.forall_mem_append]
  exact ⟨status, ⟨isShown_of_mem_givenFields _ _, targets⟩, frameworks⟩

/-- Beside its copies a build is shown when the names of its components are texts. -/
theorem isShown_beside_copies_iff :
    (∀ part ∈
        linesBeforeCopies (builtReport built source base warnings extra) ++
          linesBehindCopies (builtReport built source base warnings extra),
        IsShown part) ↔
      (∀ name ∈ built.scene.context.store.components.keys,
        ∃ written, name = .text written) ∧
        ∀ part ∈ extraLines (builtReport built source base warnings extra), IsShown part := by
  have bound :
      ∀ part ∈
        whenTruthy (builtReport built source base warnings extra) "variables"
          (fun value => [fieldLines "variables" value]),
        IsShown part :=
    (forall_mem_whenTruthy_iff rfl).mpr fun _ =>
      List.forall_mem_singleton.mpr (isShown_fieldLines "variables" _)
  have before := isShown_of_mem_linesBeforeCopies built source base warnings extra
  rw [List.forall_mem_append, and_iff_right before, linesBehindCopies, List.forall_mem_append,
    List.forall_mem_append, List.forall_mem_append, isShown_of_components_iff,
    and_iff_left (isShown_of_mem_givenFields _ _), and_iff_left bound]

end Builds

/-! ## Texts are shown as they are written when they are literal -/

/--
Markup shows a text as it is written exactly when it is literal.  The report of a failure can
be shown when its message is accepted and, in detail, the entries of its detail; it shows a
steady message as it is written exactly when the message is literal.  The report of a build can
be shown in detail when the lines of its copies are accepted and its other lines can be shown,
which they can when the names of components are texts; it shows a steady copy as it is written
exactly when the copy is literal.
-/
theorem unmarked_texts_are_shown_verbatim
    (failure build : Report)
    (copies : List (String × String))
    (detailed : Bool)
    (failed : failure.succeeded = false)
    (tells : TellsOfCopies build copies) :
    (∀ text : String,
        (∃ shown, shownText text.toList = .ok shown ∧ seen shown = visible text.toList) ↔
          IsLiteral text.toList) ∧
      ((∃ text, failure.plainText detailed = .ok text) ↔
        IsAccepted failure.errorMessage ∧
          (detailed = true → ∀ entry ∈ failure.errorDetail, IsAccepted (detailText entry))) ∧
      (isSteady failure.operation.toList = true →
        isSteady failure.errorMessage.toList = true →
          (ShowsMessage failure ↔ IsLiteral failure.errorMessage.toList) ∧
            ∀ text,
              IsLiteral failure.errorMessage.toList →
                failure.plainText detailed = .ok text →
                  visible failure.errorMessage.toList <:+: visible text.toList) ∧
      ((∃ text, build.plainText true = .ok text) ↔
        (∀ copy ∈ copies, IsAccepted (copyText copy)) ∧
          ∀ part ∈ linesBeforeCopies build ++ linesBehindCopies build, IsShown part) ∧
      (∀ text,
        build.plainText true = .ok text →
          ∃ (front back : List Char) (parts : List (List (List Char))),
            copySections copies = parts.map .ok ∧
              visible text.toList = front ++ visible parts.flatten.flatten ++ back) ∧
      (∀ copy ∈ copies,
        isSteady (copyText copy).toList = true →
          (ShowsCopy copy ↔ IsLiteral (copyText copy).toList) ∧
            ∀ text,
              IsLiteral (copyText copy).toList →
                build.plainText true = .ok text →
                  visible (copyText copy).toList <:+: visible text.toList) ∧
      ∀ (built : Built) (source : String) (base : World.Path) (warnings : List String)
        (extra : Option (List (String × Value))),
        TellsOfCopies (builtReport built source base warnings extra) built.scene.record.copies ∧
          ((∀ part ∈
              linesBeforeCopies (builtReport built source base warnings extra) ++
                linesBehindCopies (builtReport built source base warnings extra),
              IsShown part) ↔
            (∀ name ∈ built.scene.context.store.components.keys,
              ∃ written, name = .text written) ∧
              ∀ part ∈ extraLines (builtReport built source base warnings extra),
                IsShown part) := by
  refine
    ⟨fun _ => seen_eq_visible_iff_isLiteral, exists_plainText_of_failure_iff failed,
      fun operationSteady steady => ⟨?message, fun text literal told => ?messageSeen⟩,
      tells.exists_plainText_iff, fun text told => tells.exists_visible told,
      fun copy member steady => ⟨?copy, fun text literal told => ?copySeen⟩,
      fun built source base warnings extra => ⟨?builds, ?beside⟩⟩
  case message =>
    exact showsMessage_iff_isLiteral failed operationSteady steady
  case messageSeen =>
    exact message_infix_of_isLiteral failed operationSteady steady literal told
  case copy =>
    exact showsCopy_iff_isLiteral steady
  case copySeen =>
    exact tells.infix_of_isLiteral member steady literal told
  case builds =>
    exact tellsOfCopies_builtReport built source base warnings extra
  case beside =>
    exact isShown_beside_copies_iff built source base warnings extra

/-- The report of a build that failed with a message. -/
def failedBuild (message : String) : Report :=
  { succeeded := false
    operation := "build"
    error := some ⟨"BUILD_FAILED", message, []⟩ }

/-- The report of a build that succeeded and tells of copies only. -/
def copyingBuild (copies : List (String × String)) : Report :=
  { succeeded := true
    operation := "build"
    data := [("copies", pairRecords "from" "to" copies)] }

theorem unmarked_texts_are_shown_verbatim_of_message_and_copy :
    (failedBuild "Line 2 (exist-import): row[0] is gone").succeeded = false ∧
      TellsOfCopies (copyingBuild [("a[1]", "b")]) [("a[1]", "b")] ∧
        ShowsMessage (failedBuild "Line 2 (exist-import): row[0] is gone") ∧
          (∃ text, (copyingBuild [("a[1]", "b")]).plainText true = .ok text) ∧
            ∀ text,
              (copyingBuild [("a[1]", "b")]).plainText true = .ok text →
                visible "    a[1] -> b".toList <:+: visible text.toList := by
  have tells : TellsOfCopies (copyingBuild [("a[1]", "b")]) [("a[1]", "b")] := ⟨rfl, rfl, rfl⟩
  obtain ⟨literals, -, messages, total, -, verbatim, -⟩ :=
    unmarked_texts_are_shown_verbatim (failedBuild "Line 2 (exist-import): row[0] is gone")
      (copyingBuild [("a[1]", "b")]) [("a[1]", "b")] false rfl tells
  have messageLiteral : IsLiteral "Line 2 (exist-import): row[0] is gone".toList := by
    decide +kernel
  have copyLiteral : IsLiteral (copyText ("a[1]", "b")).toList := by
    decide +kernel
  have accepted : IsAccepted (copyText ("a[1]", "b")) :=
    ((literals _).mpr copyLiteral).imp fun _ => And.left
  have beside :
      ∀ part ∈
        linesBeforeCopies (copyingBuild [("a[1]", "b")]) ++
          linesBehindCopies (copyingBuild [("a[1]", "b")]),
        IsShown part :=
    List.forall_mem_singleton.mpr (isShown_display_literals ["OK", "  build"])
  refine ⟨rfl, tells, ?message, ?shown, ?copy⟩
  case message =>
    exact (messages (by decide +kernel) (by decide +kernel)).1.mpr messageLiteral
  case shown =>
    exact total.mpr ⟨List.forall_mem_singleton.mpr accepted, beside⟩
  case copy =>
    exact fun text =>
      (verbatim ("a[1]", "b") List.mem_cons_self (by decide +kernel)).2 text copyLiteral

/-- A closing tag keeps a failure from being shown, and opening tags are not seen. -/
theorem marked_texts_are_not_shown_verbatim :
    (∀ text, (failedBuild "bad [/x]").plainText false ≠ .ok text) ∧
      (∃ text,
        (failedBuild "see [draft]").plainText false = .ok text ∧
          ¬ visible "see [draft]".toList <:+: visible text.toList) ∧
        ∃ text,
          (copyingBuild [("a[b]", "c")]).plainText true = .ok text ∧
            ¬ visible "a[b] -> c".toList <:+: visible text.toList := by
  have of_toOption :
      ∀ {shown : Except Fault String} {text : String},
        shown.toOption = some text → shown = .ok text := by
    intro shown text told
    cases shown with
    | error fault =>
        cases told
    | ok own =>
        exact congrArg Except.ok (Option.some.inj told)
  refine ⟨?refused, ?message, ?copy⟩
  case refused =>
    have none : ((failedBuild "bad [/x]").plainText false).toOption = none := by decide +kernel
    intro text told
    rw [told] at none
    cases none
  case message =>
    exact ⟨"ERROR   build  —  see ", of_toOption (by decide +kernel), by decide +kernel⟩
  case copy =>
    exact
      ⟨"OK   build\n  copies:  1\n    a -> c", of_toOption (by decide +kernel),
        by decide +kernel⟩

end PageScript.Service
