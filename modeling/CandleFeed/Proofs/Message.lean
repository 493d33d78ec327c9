import CandleFeed.Message
import CandleFeed.Proofs.Documents

namespace CandleFeed
open Json Json.Codec

theorem Channel.writes_codec : codec.Writes :=
  writes_named _ _

theorem MessageType.writes_codec : codec.Writes :=
  writes_named _ _

theorem Payload.written_write (payload : Payload) : Written payload.write := by
  cases payload with
  | kline candle => exact Candle.shows_codec.writes candle
  | depth book => exact Depth.shows_codec.writes book
  | ticker stats => exact Ticker.shows_codec.writes stats
  | trade report => exact PublicTrade.shows_codec.writes report
  | dayStats stats => exact Ticker.shows_codec.writes stats

namespace Message

def topicParts (topic : Topic) : List Member :=
  ("channel", Channel.codec.write topic.channel) :: ("symbol", Symbol.codec.write topic.symbol) ::
    (topic.interval.map fun interval => ("interval", quote interval)).toList

def subjectParts : Message → List Member
  | pong | error _ => []
  | subscribed topic | unsubscribed topic => topicParts topic
  | push payload => [("symbol", Symbol.codec.write payload.symbol), ("data", payload.write)]

def explanationParts : Message → List Member
  | error cause => [("code", quote cause.code), ("message", quote cause.message)]
  | _ => []

def parts (m : Message) (now : Int) : List Member :=
  ("type", MessageType.codec.write m.type) :: m.subjectParts ++
    ("timestamp", Text.signedDigits now) :: m.explanationParts

theorem subject_eq (m : Message) : m.subject = m.subjectParts.map Member.text := by
  cases m with
  | subscribed topic | unsubscribed topic =>
      cases interval : topic.interval <;>
        simp [subject, subjectParts, topicMembers, topicParts, interval, Member.text]
  | _ => rfl

theorem members_eq (m : Message) (now : Int) : m.members now = (m.parts now).map Member.text := by
  have explanation : m.explanation = m.explanationParts.map Member.text := by cases m <;> rfl
  simp [members, parts, subject_eq, explanation, Member.text]

theorem written_topicParts (topic : Topic) : ∀ part ∈ topicParts topic, Written part.2 := by
  intro part mem
  rcases List.mem_cons.mp mem with rfl | mem
  · exact Channel.writes_codec topic.channel
  rcases List.mem_cons.mp mem with rfl | mem
  · exact Symbol.writes_codec topic.symbol
  · obtain ⟨interval, -, rfl⟩ := Option.map_eq_some_iff.mp (Option.mem_toList.mp mem)
    exact .quoted interval

theorem written_parts (m : Message) (now : Int) : ∀ part ∈ m.parts now, Written part.2 := by
  have subject : ∀ part ∈ m.subjectParts, Written part.2 := by
    cases m with
    | subscribed topic | unsubscribed topic => exact written_topicParts topic
    | push payload =>
        simpa [subjectParts] using ⟨Symbol.writes_codec payload.symbol, payload.written_write⟩
    | _ => exact nofun
  have explanation : ∀ part ∈ m.explanationParts, Written part.2 := by
    cases m with
    | error cause => simpa [explanationParts] using ⟨.quoted cause.code, .quoted cause.message⟩
    | _ => exact nofun
  intro part mem
  rcases List.mem_append.mp mem with mem | mem
  · rcases List.mem_cons.mp mem with rfl | mem
    · exact MessageType.writes_codec m.type
    · exact subject part mem
  · rcases List.mem_cons.mp mem with rfl | mem
    · exact .number now
    · exact explanation part mem

theorem members?_encode (m : Message) (now : Int) : members? (m.encode now) = .ok (m.parts now) := by
  rw [encode, members_eq]
  exact members?_object (m.written_parts now)

end Message

end CandleFeed
