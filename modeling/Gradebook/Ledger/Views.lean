import Gradebook.Ledger.Basic
import Gradebook.Record.Codec
import Gradebook.Text.Blank
import Gradebook.Text.Case
import Gradebook.Text.Search

/-!
# Views

What the ledgers show about a student and about the whole roster: answers by status, open
homework, a summary, the ranking by stamps, and the students whose name holds a query.  Summaries
and rows of the ranking have a JSON form.
-/

namespace Gradebook

open Json (Value)
open Time (Instant)

/-- How many recent records are shown unless asked otherwise. -/
def defaultRecentLimit : Nat := 20

namespace Student

def answersWith (s : Student) (status : Status) : List LogEntry :=
  s.logs.filter (·.status = status)

def wrongAnswers (s : Student) : List LogEntry :=
  s.answersWith .incorrect

def partialAnswers (s : Student) : List LogEntry :=
  s.answersWith .partly

def wrongAnswersSince (s : Student) (start : Instant) : List LogEntry :=
  s.wrongAnswers.filter fun e => !e.timestamp.before start

def incompleteHomework (s : Student) : List Homework :=
  s.homework.filter (!·.completed)

end Student

structure Summary where
  id : StudentId
  name : String
  stamps : Count
  wrongAnswers : Nat
  partialAnswers : Nat
  incompleteHomework : Nat
  penaltyTotal : Nat
  hasMilestone : Bool
deriving DecidableEq

structure Ranking where
  id : StudentId
  name : String
  stamps : Count
  hasMilestone : Bool
  lastStampAt : Option Instant
deriving DecidableEq

namespace Ledgers

def summary (l : Ledgers) (s : Student) : Summary where
  id := s.id
  name := s.name
  stamps := s.stamps
  wrongAnswers := s.wrongAnswers.length
  partialAnswers := s.partialAnswers.length
  incompleteHomework := s.incompleteHomework.length
  penaltyTotal := l.penaltyTotal s.id
  hasMilestone := s.hasMilestone

def rankingOf (l : Ledgers) (s : Student) : Ranking where
  id := s.id
  name := s.name
  stamps := s.stamps
  hasMilestone := s.hasMilestone
  lastStampAt := l.lastStampAt? s.id

/-- The students by stamps, the most first; equal balances stay in the order of the roster. -/
def rankings (l : Ledgers) : List Ranking :=
  (l.roster.map l.rankingOf).mergeSort fun a b => b.stamps.val ≤ a.stamps.val

end Ledgers

/-- The students whose name holds the query, case and surrounding white space aside. -/
def Roster.search (r : Roster) (query : String) : List Student :=
  let needle := (Text.lower (Text.trim query)).toList
  r.filter fun s => Text.occursIn needle (Text.lower s.name).toList

def Summary.members (s : Summary) : List (String × Value) :=
  [("id", .string s.id), ("name", .string s.name), ("stamps", s.stamps.toJson),
    ("wrong_answers", .integer s.wrongAnswers), ("partial_answers", .integer s.partialAnswers),
    ("incomplete_homework", .integer s.incompleteHomework),
    ("penalty_total", .integer s.penaltyTotal), ("has_milestone", .bool s.hasMilestone)]

def Ranking.toJson (r : Ranking) : Value :=
  .object [("id", .string r.id), ("name", .string r.name), ("stamps", r.stamps.toJson),
    ("has_milestone", .bool r.hasMilestone),
    ("last_stamp_at", (r.lastStampAt.map Time.Instant.toJson).getD .null)]

end Gradebook
