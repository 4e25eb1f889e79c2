import FleetRouting.Metrics
import FleetRouting.Proofs.SortedMap
import Mathlib.Data.List.Basic
import Mathlib.Data.List.Induction
import Mathlib.Tactic.Common
/-!
# FleetRouting.Proofs.MetricsText

**The text for scrapers tells the counters.** An escaped label value is read back up to its closing quote, whatever
comes behind it (`Metrics.readValue?_escaped`), so the line of a decision count gives back its labels and its count
(`Metrics.readLine?_decisionText`). No line break comes from a value, so the lines of the text are those that were put
together (`Metrics.splitOn_render`), and from them all the counters can be told.
-/

namespace FleetRouting

/-- The order of labels is that of their triples. -/
theorem DecisionLabels.lt_iff {l l' : DecisionLabels} :
    l < l' ↔ l.strategy < l'.strategy ∨ l.strategy = l'.strategy ∧
      (l.modelType < l'.modelType ∨ l.modelType = l'.modelType ∧ l.region < l'.region) := by
  show l.toList < l'.toList ↔ _
  simp [toList, List.cons_lt_cons_iff]

namespace Metrics

/-! ### Escapes -/

/-- The character that an escape stands for. -/
def unescape? : Char → Option Char
  | '\\' => some '\\'
  | '"' => some '"'
  | 'n' => some '\n'
  | _ => none

/-- A character within quotes is an escape of itself, or stands there as it is. -/
theorem escapeChar_cases (c : Char) :
    (∃ e, escapeChar c = ['\\', e] ∧ unescape? e = some c) ∨
      escapeChar c = [c] ∧ c ≠ '\\' ∧ c ≠ '"' ∧ c ≠ '\n' := by
  unfold escapeChar
  split
  · exact .inl ⟨'\\', rfl, rfl⟩
  · exact .inl ⟨'"', rfl, rfl⟩
  · exact .inl ⟨'n', rfl, rfl⟩
  · next hbackslash hquote hbreak => exact .inr ⟨rfl, hbackslash, hquote, hbreak⟩

/-- The text of a label value within its quotes. -/
def escaped (value : String) : List Char := value.toList.flatMap escapeChar

/-- Puts `text` in the place of every `c`. -/
def replaceChar (c : Char) (text value : List Char) : List Char :=
  value.flatMap fun x => if x = c then text else [x]

/-- To escape is to replace backslashes, then quotes, then line breaks. -/
theorem escaped_eq_replaced (value : String) :
    escaped value =
      replaceChar '\n' ['\\', 'n'] (replaceChar '"' ['\\', '"'] (replaceChar '\\' ['\\', '\\'] value.toList)) := by
  simp only [escaped, replaceChar, List.flatMap_assoc]
  congr 1
  funext c
  unfold escapeChar
  split
  · rfl
  · rfl
  · rfl
  · next hbackslash hquote hbreak =>
      rw [if_neg hbackslash, List.flatMap_singleton, if_neg hquote, List.flatMap_singleton, if_neg hbreak]

/-- How many backslashes a text ends with. -/
def backslashes (text : List Char) : Nat := (text.reverse.takeWhile (· = '\\')).length

theorem backslashes_concat (text : List Char) (c : Char) :
    backslashes (text ++ [c]) = if c = '\\' then backslashes text + 1 else 0 := by
  simp only [backslashes, List.reverse_append, List.reverse_singleton, List.singleton_append, List.takeWhile_cons]
  split <;> simp_all

/-- Every backslash of an escaped text is one of an escape. -/
theorem even_backslashes_escaped (value : List Char) : backslashes (value.flatMap escapeChar) % 2 = 0 := by
  induction value using List.reverseRecOn with
  | nil => rfl
  | append_singleton value c ih =>
      rw [List.flatMap_append, List.flatMap_singleton]
      rcases escapeChar_cases c with ⟨e, hescape, -⟩ | ⟨hplain, hbackslash, -⟩
      · rw [hescape, ← List.singleton_append, ← List.append_assoc, backslashes_concat, backslashes_concat, if_pos rfl]
        split <;> omega
      · rw [hplain, backslashes_concat, if_neg hbackslash]

/-- Where the text of a character has a quote, a single backslash stands in front of it. -/
theorem eq_of_quote {c : Char} {before after : List Char} (h : escapeChar c = before ++ '"' :: after) :
    before = ['\\'] := by
  rcases escapeChar_cases c with ⟨e, hescape, -⟩ | ⟨hplain, -, hquote, -⟩
  · rw [hescape] at h
    match before, h with
    | [], h => cases h
    | [x], h => cases h; rfl
    | _ :: _ :: _, h => simp at h
  · rw [hplain] at h
    match before, h with
    | [], h => exact absurd (List.cons.inj h).1 hquote
    | _ :: _, h => simp at h

/-- **A quote in an escaped text is escaped:** the backslashes in front of it are odd in number. -/
theorem odd_backslashes_of_quote {value before after : List Char}
    (h : value.flatMap escapeChar = before ++ '"' :: after) : backslashes before % 2 = 1 := by
  induction value using List.reverseRecOn generalizing after with
  | nil => simp at h
  | append_singleton value c ih =>
      rw [List.flatMap_append, List.flatMap_singleton] at h
      rcases List.append_eq_append_iff.1 h with ⟨middle, rfl, hescape⟩ | ⟨middle, hvalue, hescape⟩
      -- the quote belongs to the last character
      · rw [eq_of_quote hescape, backslashes_concat, if_pos rfl]
        have heven := even_backslashes_escaped value
        omega
      · cases middle with
        | nil =>
            have hbefore : [] = ['\\'] := eq_of_quote hescape.symm
            cases hbefore
        | cons x middle =>
            obtain ⟨rfl, -⟩ := List.cons.inj hescape
            exact ih hvalue

/-- No line break stays in an escaped text. -/
theorem newline_not_mem_escaped (value : List Char) : '\n' ∉ value.flatMap escapeChar := by
  intro hmem
  obtain ⟨c, -, hc⟩ := List.mem_flatMap.1 hmem
  rcases escapeChar_cases c with ⟨e, hescape, hvalue⟩ | ⟨hplain, -, -, hbreak⟩
  · rw [hescape, List.mem_cons, List.mem_singleton] at hc
    rcases hc with hc | rfl
    · cases hc
    · cases hvalue
  · rw [hplain, List.mem_singleton] at hc
    exact hbreak hc.symm

/-! ### Reading a line -/

/-- Reads a label value up to its closing quote; gives the value and what follows the quote. -/
def readValue? : List Char → Option (List Char × List Char)
  | '"' :: rest => some ([], rest)
  | '\n' :: _ => none
  | '\\' :: e :: rest => (unescape? e).bind fun c => (readValue? rest).map fun (value, rest) => (c :: value, rest)
  | c :: rest => (readValue? rest).map fun (value, rest) => (c :: value, rest)
  | [] => none

/-- **A label value is read back from its escaped text,** and no more is read. -/
theorem readValue?_escaped (value rest : List Char) :
    readValue? (value.flatMap escapeChar ++ '"' :: rest) = some (value, rest) := by
  induction value with
  | nil => rfl
  | cons c value ih =>
      rw [List.flatMap_cons, List.append_assoc]
      rcases escapeChar_cases c with ⟨e, hescape, hvalue⟩ | ⟨hplain, hbackslash, hquote, hbreak⟩
      · rw [hescape]
        simp only [List.cons_append, List.nil_append, readValue?, hvalue, Option.bind_some, ih, Option.map_some]
      · rw [hplain, List.singleton_append, readValue?, ih]
        · rfl
        · exact hquote
        · exact hbreak
        · exact fun _ _ h => absurd h hbackslash

/-- Drops the beginning of a text. -/
def dropStart? (start text : String) : Option String := (text.toList.dropPrefix? start.toList).map .ofList

theorem dropStart?_append (start rest : String) : dropStart? start (start ++ rest) = some rest := by
  have hdrop : (start.toList ++ rest.toList).dropPrefix? start.toList = some rest.toList :=
    List.dropPrefix?_append_of_beq _ (BEq.refl _)
  rw [dropStart?, String.toList_append, hdrop, Option.map_some, String.ofList_toList]

/-- Reads a value in quotes; gives it and what follows it. -/
def readQuoted? (text : String) : Option (String × String) := do
  let text ← dropStart? "\"" text
  let (value, rest) ← readValue? text.toList
  return (.ofList value, .ofList rest)

theorem readQuoted?_quoted (value rest : String) : readQuoted? (quoted value ++ rest) = some (value, rest) := by
  have htext :
      quoted value ++ rest = "\"" ++ String.ofList (value.toList.flatMap escapeChar ++ '"' :: rest.toList) := by
    rw [← String.toList_inj, quoted]
    simp
  rw [readQuoted?, htext, dropStart?_append]
  simp only [Option.bind_eq_bind, Option.bind_some, String.toList_ofList, readValue?_escaped, String.ofList_toList]
  rfl

/-- The line of a decision count, without its end. -/
def decisionText (labels : DecisionLabels) (count : Nat) : String :=
  "fleet_decisions_total\x7bstrategy=" ++ quoted labels.strategy ++ ",model_type=" ++
    quoted labels.modelType ++ ",region=" ++ quoted labels.region ++ "\x7d " ++ toString count

/-- Reads the line of a decision count. -/
def readLine? (line : String) : Option (DecisionLabels × Nat) := do
  let (strategy, rest) ← readQuoted? (← dropStart? "fleet_decisions_total\x7bstrategy=" line)
  let (modelType, rest) ← readQuoted? (← dropStart? ",model_type=" rest)
  let (region, rest) ← readQuoted? (← dropStart? ",region=" rest)
  let count ← dropStart? "\x7d " rest
  return (⟨strategy, modelType, region⟩, Nat.ofDigitChars 10 count.toList 0)

/-- A count is read back from its digits. -/
theorem ofDigitChars_toString (n : Nat) : Nat.ofDigitChars 10 (toString n).toList 0 = n := by
  rw [show (toString n).toList = Nat.toDigits 10 n from Nat.toList_repr]
  exact Nat.ofDigitChars_ten_toDigits

/-- **The labels and the count are read back from their line.** -/
theorem readLine?_decisionText (labels : DecisionLabels) (count : Nat) :
    readLine? (decisionText labels count) = some (labels, count) := by
  unfold readLine? decisionText
  simp only [String.append_assoc, dropStart?_append, readQuoted?_quoted, Option.bind_eq_bind, Option.bind_some,
    ofDigitChars_toString]
  rfl

/-- A model type that imitates the end of a label. -/
example : decisionText ⟨"least_loaded", "m\",region=\"eu", ""⟩ 2 =
    "fleet_decisions_total\x7bstrategy=\"least_loaded\",model_type=\"m\\\",region=\\\"eu\",region=\"\"\x7d 2" := by
  decide +kernel

/-! ### The lines of the text -/

/-- The counters without labels, each with its name and its description. -/
def counters (m : Metrics) : List (String × String × Nat) := [
  ("fleet_registrations_total", "Head registrations", m.registrations),
  ("fleet_status_updates_total", "Head status updates", m.statusUpdates),
  ("fleet_cache_hits_total", "Decision cache hits", m.cacheHits),
  ("fleet_cache_misses_total", "Decision cache misses", m.cacheMisses),
  ("fleet_rate_limited_total", "Requests rejected by the rate limiter", m.rateLimited),
  ("fleet_breaker_rejections_total", "Outbound calls rejected by an open circuit", m.breakerRejections),
  ("fleet_persistence_failures_total", "Failed store writes", m.persistenceFailures)]

/-- The lines in front of a metric. -/
def header (name help : String) : List String :=
  ["# HELP " ++ name ++ " " ++ help, "# TYPE " ++ name ++ " " ++ "counter"]

/-- The line of a counter without labels. -/
def counterText (name : String) (value : Nat) : String := name ++ " " ++ toString value

/-- The lines of the text. -/
def lines (m : Metrics) : List String :=
  (m.counters.flatMap fun (name, help, value) => header name help ++ [counterText name value]) ++
    (header "fleet_decisions_total" "Routing decisions computed" ++
      m.decisions.toList.map fun e => decisionText e.1 e.2)

/-- A text of some lines. -/
def unlines (ls : List String) : String := String.join (ls.map (· ++ "\n"))

theorem unlines_append (ls ls' : List String) : unlines (ls ++ ls') = unlines ls ++ unlines ls' := by
  rw [unlines, List.map_append, String.join_append]
  rfl

theorem metric_eq (name help value : String) :
    metric name help "counter" value = unlines (header name help) ++ value := by
  have hbreak : "\n# TYPE " = "\n" ++ "# TYPE " := rfl
  unfold metric
  rw [hbreak]
  simp only [unlines, header, List.map_cons, List.map_nil, String.join_cons, String.join_nil, String.append_assoc,
    String.append_empty]

theorem counter_eq (name help : String) (value : Nat) :
    counter name help value = unlines (header name help ++ [counterText name value]) := by
  rw [counter, metric_eq, unlines_append]
  simp only [unlines, List.map_cons, List.map_nil, String.join_cons, String.join_nil, String.append_empty]
  rfl

/-- The text is made of its lines. -/
theorem render_eq (m : Metrics) : m.render = unlines m.lines := by
  unfold render lines counters
  have hdecisions : String.join (m.decisions.toList.map fun e => decisionLine e.1 e.2) =
      unlines (m.decisions.toList.map fun e => decisionText e.1 e.2) := by
    rw [unlines, List.map_map]
    rfl
  have hnone : unlines [] = "" := rfl
  simp only [counter_eq, metric_eq, hdecisions, hnone, unlines_append, List.flatMap_cons, List.flatMap_nil,
    String.join_cons, String.join_nil, String.append_assoc, String.append_empty]

/-- A text that stays on its line. -/
def Unbroken (s : String) : Prop := '\n' ∉ s.toList

instance (s : String) : Decidable (Unbroken s) := inferInstanceAs (Decidable ('\n' ∉ s.toList))

theorem Unbroken.append {s t : String} (hs : Unbroken s) (ht : Unbroken t) : Unbroken (s ++ t) := by
  rw [Unbroken, String.toList_append, List.mem_append, not_or]
  exact ⟨hs, ht⟩

theorem unbroken_toString (n : Nat) : Unbroken (toString n) := by
  intro hmem
  rw [show (toString n).toList = Nat.toDigits 10 n from Nat.toList_repr] at hmem
  have hdigit := Nat.isDigit_of_mem_toDigits (by decide) (by decide) hmem
  cases hdigit

theorem unbroken_quoted (value : String) : Unbroken (quoted value) := by
  rw [Unbroken, quoted, String.toList_ofList, List.mem_cons, List.mem_append, List.mem_singleton]
  rintro (hopen | hvalue | hclose)
  · cases hopen
  · exact newline_not_mem_escaped value.toList hvalue
  · cases hclose

theorem unbroken_decisionText (labels : DecisionLabels) (count : Nat) : Unbroken (decisionText labels count) := by
  have hquoted := unbroken_quoted
  have hcount := unbroken_toString count
  exact ((((((Unbroken.append (by decide) (hquoted _)).append (by decide)).append (hquoted _)).append
    (by decide)).append (hquoted _)).append (by decide)).append hcount

theorem unbroken_header {name help : String} (hname : Unbroken name) (hhelp : Unbroken help) :
    ∀ l ∈ header name help, Unbroken l := by
  have hspace : Unbroken " " := by decide
  refine List.forall_mem_cons.2 ⟨?_, List.forall_mem_singleton.2 ?_⟩
  · exact ((Unbroken.append (by decide) hname).append hspace).append hhelp
  · exact ((Unbroken.append (by decide) hname).append hspace).append (by decide)

theorem unbroken_counters (m : Metrics) : ∀ c ∈ m.counters, Unbroken c.1 ∧ Unbroken c.2.1 := by
  simp only [counters, List.forall_mem_cons, List.not_mem_nil, false_imp_iff, implies_true, and_true]
  decide

/-- No line of the text is broken. -/
theorem unbroken_lines (m : Metrics) : ∀ l ∈ m.lines, Unbroken l := by
  refine List.forall_mem_append.2 ⟨?_, List.forall_mem_append.2 ⟨?_, ?_⟩⟩
  · intro l hl
    obtain ⟨⟨name, help, value⟩, hc, hl⟩ := List.mem_flatMap.1 hl
    obtain ⟨hname, hhelp⟩ := m.unbroken_counters _ hc
    rcases List.mem_append.1 hl with hl | hl
    · exact unbroken_header hname hhelp l hl
    · rw [List.mem_singleton.1 hl]
      exact (hname.append (by decide)).append (unbroken_toString value)
  · exact unbroken_header (by decide) (by decide)
  · intro l hl
    obtain ⟨e, -, rfl⟩ := List.mem_map.1 hl
    exact unbroken_decisionText e.1 e.2

/-- A text is split into its lines, and the nothing that stands behind the last of them. -/
theorem splitOn_unlines {ls : List String} (h : ∀ l ∈ ls, Unbroken l) :
    (unlines ls).toList.splitOn '\n' = ls.map String.toList ++ [[]] := by
  induction ls with
  | nil => rfl
  | cons l ls ih =>
      obtain ⟨hl, hls⟩ := List.forall_mem_cons.1 h
      have htext : (unlines (l :: ls)).toList = l.toList ++ '\n' :: (unlines ls).toList := by
        rw [unlines, List.map_cons, String.join_cons, String.toList_append, String.toList_append, List.append_assoc]
        rfl
      rw [htext, List.splitOn_append_cons_self_of_not_mem hl, ih hls]
      rfl

/-- **The lines of the text are those that were put together.** -/
theorem splitOn_render (m : Metrics) : m.render.toList.splitOn '\n' = m.lines.map String.toList ++ [[]] := by
  rw [render_eq, splitOn_unlines m.unbroken_lines]

/-! ### The lines of the decision counts -/

/-- A line of a decision count. -/
def isDecisionLine (line : List Char) : Bool := "fleet_decisions_total".toList.isPrefixOf line

theorem isDecisionLine_decisionText (labels : DecisionLabels) (count : Nat) :
    isDecisionLine (decisionText labels count).toList = true := by
  have hname : "fleet_decisions_total\x7bstrategy=" = "fleet_decisions_total" ++ "\x7bstrategy=" := rfl
  unfold isDecisionLine decisionText
  simp only [hname, String.append_assoc]
  rw [String.toList_append, List.isPrefixOf_iff_prefix]
  exact List.prefix_append _ _

/-- A line that begins otherwise is not one of a decision count. -/
theorem isDecisionLine_of_start {start : String} (hlong : 21 ≤ start.toList.length)
    (hstart : isDecisionLine start.toList = false) (rest : String) : isDecisionLine (start ++ rest).toList = false := by
  rw [isDecisionLine, ← Bool.not_eq_true, List.isPrefixOf_iff_prefix] at hstart ⊢
  intro hprefix
  rw [String.toList_append] at hprefix
  exact hstart (List.prefix_of_prefix_length_le hprefix (List.prefix_append _ _) hlong)

theorem isDecisionLine_header (name help : String) : ∀ l ∈ header name help, isDecisionLine l.toList = false := by
  have hcomment (start rest : String) (hstart : start.toList.head? = some '#') :
      isDecisionLine (start ++ rest).toList = false := by
    rw [isDecisionLine, ← Bool.not_eq_true, List.isPrefixOf_iff_prefix, String.toList_append]
    rintro ⟨tail, htail⟩
    have hname : "fleet_decisions_total".toList.head? = some 'f' := rfl
    have hhead := congrArg List.head? htail
    rw [List.head?_append, List.head?_append, hname, hstart] at hhead
    cases hhead
  refine List.forall_mem_cons.2 ⟨?_, List.forall_mem_singleton.2 ?_⟩
  · rw [String.append_assoc, String.append_assoc]
    exact hcomment _ _ rfl
  · rw [String.append_assoc, String.append_assoc]
    exact hcomment _ _ rfl

theorem isDecisionLine_counters (m : Metrics) : ∀ c ∈ m.counters,
    21 ≤ c.1.toList.length ∧ isDecisionLine c.1.toList = false := by
  simp only [counters, List.forall_mem_cons, List.not_mem_nil, false_imp_iff, implies_true, and_true]
  decide

/-- **The decision counts have one line each,** in the order of their labels. -/
theorem filter_splitOn_render (m : Metrics) : (m.render.toList.splitOn '\n').filter isDecisionLine =
    m.decisions.toList.map fun e => (decisionText e.1 e.2).toList := by
  have hothers {ls : List String} (h : ∀ l ∈ ls, isDecisionLine l.toList = false) :
      (ls.map String.toList).filter isDecisionLine = [] := by
    rw [List.filter_map, List.map_eq_nil_iff, List.filter_eq_nil_iff]
    exact fun l hl => ne_true_of_eq_false (h l hl)
  have hcounters : ∀ l ∈ m.counters.flatMap fun (name, help, value) => header name help ++ [counterText name value],
      isDecisionLine l.toList = false := by
    intro l hl
    obtain ⟨⟨name, help, value⟩, hc, hl⟩ := List.mem_flatMap.1 hl
    obtain ⟨hlong, hname⟩ := m.isDecisionLine_counters _ hc
    rcases List.mem_append.1 hl with hl | hl
    · exact isDecisionLine_header name help l hl
    · rw [List.mem_singleton.1 hl, counterText, String.append_assoc]
      exact isDecisionLine_of_start hlong hname _
  have hdecisions : ((m.decisions.toList.map fun e => decisionText e.1 e.2).map String.toList).filter isDecisionLine =
      m.decisions.toList.map fun e => (decisionText e.1 e.2).toList := by
    rw [List.map_map]
    refine List.filter_eq_self.2 fun line hline => ?_
    obtain ⟨e, -, rfl⟩ := List.mem_map.1 hline
    exact isDecisionLine_decisionText e.1 e.2
  have hend : [[]].filter isDecisionLine = [] := rfl
  rw [splitOn_render, lines, List.map_append, List.map_append, List.filter_append, List.filter_append,
    List.filter_append, hothers hcounters, hothers (isDecisionLine_header _ _), hdecisions, hend, List.nil_append,
    List.nil_append, List.append_nil]

/-! ### Different counters -/

theorem decisionText_injective {l l' : DecisionLabels} {n n' : Nat} (h : decisionText l n = decisionText l' n') :
    (l, n) = (l', n') := by
  have hread := readLine?_decisionText l n
  rw [h, readLine?_decisionText] at hread
  exact (Option.some.inj hread).symm

theorem counterText_injective {name : String} {n n' : Nat} (h : counterText name n = counterText name n') : n = n' := by
  have hread := dropStart?_append (name ++ " ") (toString n)
  rw [← counterText, h, counterText, dropStart?_append] at hread
  rw [← ofDigitChars_toString n, ← Option.some.inj hread, ofDigitChars_toString]

/-- The lines tell all the counters. -/
theorem lines_injective {m m' : Metrics} (h : m.lines = m'.lines) : m = m' := by
  obtain ⟨hcounters, hrest⟩ := List.append_inj h rfl
  have hdecisions : m.decisions.toList = m'.decisions.toList :=
    List.map_injective_iff.2 (fun e e' => decisionText_injective) (List.append_cancel_left hrest)
  simp only [counters, header, List.flatMap_cons, List.flatMap_nil, List.cons_append, List.nil_append,
    List.cons.injEq, true_and, and_true] at hcounters
  obtain ⟨hregistrations, hupdates, hhits, hmisses, hlimited, hrejections, hfailures⟩ := hcounters
  cases m
  cases m'
  rw [mk.injEq]
  exact ⟨counterText_injective hregistrations, counterText_injective hupdates, counterText_injective hhits,
    counterText_injective hmisses, counterText_injective hlimited, counterText_injective hrejections,
    counterText_injective hfailures, SortedMap.ext hdecisions⟩

theorem render_injective {m m' : Metrics} (h : m.render = m'.render) : m = m' := by
  have hlines := m.splitOn_render
  rw [h, m'.splitOn_render] at hlines
  have hsame : m'.lines = m.lines :=
    List.map_injective_iff.2 (fun _ _ => String.toList_inj.1) (List.append_cancel_right hlines)
  exact (lines_injective hsame).symm

/-- **The text for scrapers is unambiguous,** whatever the labels are. It has one line for each triple of labels that
was recorded, with the count of the triple, in the order of the triples and so in the same way however the counts are
listed before they are sorted. Escaping is the replacement of backslashes, then of quotes, then of line breaks; it
leaves neither a line break nor a quote that is not escaped, and labels and count are read back from the line. No other
counters have the same text. -/
theorem render_unambiguous (m : Metrics) :
    let lines := (m.render.toList.splitOn '\n').filter isDecisionLine
    (lines = m.decisions.keys.map (fun l => (decisionText l (m.decisionCount l)).toList) ∧
      (∀ l, l ∈ m.decisions.keys ↔ ∃ n, m.decisions.get? l = some n) ∧
      m.decisions.keys.Pairwise fun l l' => l.strategy < l'.strategy ∨ l.strategy = l'.strategy ∧
        (l.modelType < l'.modelType ∨ l.modelType = l'.modelType ∧ l.region < l'.region)) ∧
    (∀ rows : List (DecisionLabels × Nat), rows.Perm m.decisions.toList →
      lines = (rows.mergeSort fun a b => !decide (b.1 < a.1)).map fun e => (decisionText e.1 e.2).toList) ∧
    (∀ value : String,
      escaped value =
        replaceChar '\n' ['\\', 'n'] (replaceChar '"' ['\\', '"'] (replaceChar '\\' ['\\', '\\'] value.toList)) ∧
      '\n' ∉ escaped value ∧
      ∀ before after, escaped value = before ++ '"' :: after → backslashes before % 2 = 1) ∧
    (∀ l n, readLine? (decisionText l n) = some (l, n)) ∧
    ∀ m' : Metrics, m'.render = m.render → m' = m := by
  intro lines
  have hlines : lines = m.decisions.toList.map fun e => (decisionText e.1 e.2).toList := m.filter_splitOn_render
  refine ⟨⟨?_, fun l => SortedMap.mem_keys, ?_⟩, fun rows hrows => ?_, fun value => ⟨?_, ?_, ?_⟩,
    readLine?_decisionText, fun m' => render_injective⟩
  · rw [hlines, SortedMap.keys, List.map_map]
    refine List.map_congr_left fun e he => ?_
    have hcount : m.decisionCount e.1 = e.2 := by
      rw [decisionCount, SortedMap.get?_eq_some.2 he, Option.getD_some]
    show _ = (decisionText e.1 (m.decisionCount e.1)).toList
    rw [hcount]
  · exact List.pairwise_map.2 (m.decisions.sorted.imp DecisionLabels.lt_iff.1)
  · rw [hlines, SortedMap.mergeSort_of_perm hrows]
  · exact escaped_eq_replaced value
  · exact newline_not_mem_escaped value.toList
  · exact fun before after => odd_backslashes_of_quote

end Metrics

end FleetRouting
