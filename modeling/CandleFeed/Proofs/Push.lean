import CandleFeed.Proofs.Json.Injective
import CandleFeed.Proofs.Message
import CandleFeed.Proofs.Service.Offers

namespace CandleFeed
open Json Json.Codec

theorem Decimal.negative_iff_render (d : Decimal) :
    d.negative = true ↔ d.render.head? = some '-' := by
  obtain ⟨whole, places, parts⟩ := exists_parts d
  obtain ⟨c, cs, rfl⟩ := List.exists_cons_of_ne_nil parts.some
  have digit := parts.whole_digits c List.mem_cons_self
  have other : c ≠ '-' := by
    rintro rfl
    cases digit
  rw [parts.render]
  cases d.negative with
  | true => exact ⟨fun _ => rfl, fun _ => rfl⟩
  | false =>
      rw [if_neg Bool.false_ne_true, List.nil_append]
      split <;> simp [other]

theorem Decimal.render_injective : Function.Injective render := by
  intro a b same
  have read := a.parse?_render
  rw [same, b.parse?_render] at read
  have sign : a.negative = b.negative := by
    rw [Bool.eq_iff_iff, negative_iff_render, negative_iff_render, same]
  have value := Option.some.inj read
  obtain ⟨negative, mantissa, scale, room, short⟩ := a
  obtain ⟨negative', mantissa', scale', room', short'⟩ := b
  simp only [signedByValue, mk.injEq] at value
  obtain ⟨-, rfl, rfl⟩ := value
  obtain rfl := sign
  rfl

theorem Decimal.tells_codec : codec.Tells :=
  tells_spelled render_injective

theorem Uuid.tells_codec : codec.Tells :=
  tells_spelled fun a b same =>
    Option.some.inj (a.parse?_render.symm.trans ((congrArg parse? same).trans b.parse?_render))

theorem Instant.tells_codec : codec.Tells :=
  tells_spelled fun a b same =>
    Option.some.inj (a.read?_render.symm.trans ((congrArg read? same).trans b.read?_render))

theorem Symbol.tells_codec : codec.Tells :=
  tells_text.map _ fun ⟨_⟩ ⟨_⟩ same => congrArg Symbol.mk same

theorem Interval.tells_codec : codec.Tells :=
  tells_named fun _ _ => code_injective

theorem Side.tells_codec : codec.Tells :=
  tells_named fun a b => by cases a <;> cases b <;> decide

theorem tells_int64 : int64.Tells :=
  tells_within _ _

theorem PriceLevel.tells_codec : codec.Tells := by
  refine (tells_record ?_ (by decide)).map _ ?_
  · exact ⟨Decimal.tells_codec, Decimal.tells_codec, trivial⟩
  · intro a b same
    cases a
    cases b
    simpa using same

structure Names (codec : Codec α) (symbol : α → Symbol) (interval : α → Option Interval) : Prop where
  tells : codec.Tells
  members : ∀ a, ∃ inner, members? (codec.encode a) = .ok inner ∧
    inner.lookup "symbol" = some (quote (symbol a).name) ∧
    inner.lookup "interval" = (interval a).map fun i => quote i.code

theorem names_record {members : Members σ τ} (tells : members.Tells) (distinct : members.names.Nodup)
    {into : τ → α} {from' : α → τ} (exact' : Function.LeftInverse into from') {symbol : α → Symbol}
    {interval : α → Option Interval}
    (named : ∀ a, (members.present (from' a)).lookup "symbol" = some (quote (symbol a).name))
    (timed : ∀ a, (members.present (from' a)).lookup "interval" =
      (interval a).map fun i => quote i.code) :
    Names ((record members).map into from') symbol interval where
  tells := (tells_record tells distinct).map into exact'.injective
  members a := ⟨_, members?_record tells.writes (from' a), named a, timed a⟩

theorem Candle.names_codec : Names codec Candle.symbol fun c => some c.interval := by
  refine names_record ?_ (by decide) (fun _ => rfl) ?_ ?_
  · exact ⟨Uuid.tells_codec, Symbol.tells_codec, Interval.tells_codec, tells_int64, tells_int64,
      Decimal.tells_codec, Decimal.tells_codec, Decimal.tells_codec, Decimal.tells_codec,
      Decimal.tells_codec, Decimal.tells_codec, tells_nat64, tells_flag, Instant.tells_codec,
      Instant.tells_codec, trivial⟩
  · intro c
    dsimp only [Members.present]
    cases c.id <;> rfl
  · intro c
    dsimp only [Members.present]
    cases c.id <;> rfl

theorem Depth.names_codec : Names codec Depth.symbol fun _ => none := by
  refine names_record ?_ (by decide) (fun _ => rfl) (fun _ => rfl) (fun _ => rfl)
  exact ⟨Symbol.tells_codec, PriceLevel.tells_codec.list, PriceLevel.tells_codec.list, tells_int64,
    trivial⟩

theorem Ticker.names_codec : Names codec Ticker.symbol fun _ => none := by
  refine names_record ?_ (by decide) (fun _ => rfl) (fun _ => rfl) (fun _ => rfl)
  exact ⟨Symbol.tells_codec, Decimal.tells_codec, Decimal.tells_codec, Decimal.tells_codec,
    Decimal.tells_codec, Decimal.tells_codec, Decimal.tells_codec, tells_int64, trivial⟩

theorem PublicTrade.names_codec : Names codec PublicTrade.symbol fun _ => none := by
  refine names_record ?_ (by decide) (fun _ => rfl) (fun _ => rfl) ?_
  · exact ⟨tells_text, Symbol.tells_codec, Decimal.tells_codec, Decimal.tells_codec,
      Decimal.tells_codec, Side.tells_codec, tells_int64, trivial⟩
  · intro report
    dsimp only [Members.present]
    cases report.takerSide <;> rfl

namespace Payload

def Fits : Payload → Prop
  | kline candle => candle.Fits
  | depth book => book.Fits
  | ticker stats | dayStats stats => stats.Fits
  | trade report => report.Fits

def signedByValue : Payload → Payload
  | kline candle => kline candle.signedByValue
  | depth book => depth book.signedByValue
  | ticker stats => ticker stats.signedByValue
  | trade report => trade report.signedByValue
  | dayStats stats => dayStats stats.signedByValue

theorem decode_eq {codec : Codec α} {a b : α} (restores : codec.Restores a b) :
    codec.decode (codec.write a) = .ok b := by
  have whole := restores.decode
  rwa [Codec.encode, String.toList_ofList] at whole

theorem decode_write {payload : Payload} (fits : payload.Fits) :
    decode payload.topic.channel payload.write = .ok payload.signedByValue := by
  cases payload with
  | kline candle => exact congrArg (Except.map kline) (decode_eq (Candle.restores_fitting fits))
  | depth book => exact congrArg (Except.map depth) (decode_eq (Depth.restores_codec fits))
  | ticker stats => exact congrArg (Except.map ticker) (decode_eq (Ticker.restores_codec fits))
  | trade report => exact congrArg (Except.map trade) (decode_eq (PublicTrade.restores_codec fits))
  | dayStats stats => exact congrArg (Except.map dayStats) (decode_eq (Ticker.restores_codec fits))

theorem eq_of_write_eq {payload other : Payload} (channel : payload.channel = other.channel)
    (same : payload.write = other.write) : payload = other := by
  cases payload <;> cases other <;> try cases channel
  case kline.kline => exact congrArg kline (Candle.names_codec.tells.injective same)
  case depth.depth => exact congrArg depth (Depth.names_codec.tells.injective same)
  case ticker.ticker => exact congrArg ticker (Ticker.names_codec.tells.injective same)
  case trade.trade => exact congrArg trade (PublicTrade.names_codec.tells.injective same)
  case dayStats.dayStats => exact congrArg dayStats (Ticker.names_codec.tells.injective same)

theorem interval_kline (symbol : Symbol) (interval : Interval) :
    (Topic.kline symbol interval).interval = some interval.code := by
  cases interval <;> rfl

theorem exists_members (payload : Payload) :
    ∃ inner, members? (String.ofList payload.write) = .ok inner ∧
      inner.lookup "symbol" = some (quote payload.topic.symbol.name) ∧
      inner.lookup "interval" = payload.topic.interval.map quote := by
  cases payload with
  | kline candle =>
      have named := Candle.names_codec.members candle
      unfold topic
      rw [interval_kline]
      exact named
  | depth book => exact Depth.names_codec.members book
  | ticker stats | dayStats stats => exact Ticker.names_codec.members stats
  | trade report => exact PublicTrade.names_codec.members report

structure Carried (payload : Payload) (text : String) (now : Int) : Prop where
  written : Written text.toList
  members : members? text = .ok
    [("type", quote payload.topic.channel.code), ("symbol", quote payload.topic.symbol.name),
      ("data", payload.write), ("timestamp", Text.signedDigits now)]
  data : ∃ inner, members? (String.ofList payload.write) = .ok inner ∧
    inner.lookup "symbol" = some (quote payload.topic.symbol.name) ∧
    inner.lookup "interval" = payload.topic.interval.map quote
  decoded : payload.Fits → decode payload.topic.channel payload.write = .ok payload.signedByValue

theorem carried_encode (payload : Payload) (now : Int) :
    payload.Carried ((Message.push payload).encode now) now where
  written := by
    rw [Message.encode, String.toList_ofList, Message.members_eq]
    exact .object _ (Message.written_parts _ now)
  members := by
    rw [Message.members?_encode]
    cases payload <;> rfl
  data := payload.exists_members
  decoded := decode_write

end Payload

def timeless (text : String) : Except Fault (List Member) :=
  (members? text).map fun members => members.filter fun member => member.1 ≠ "timestamp"

theorem Payload.Carried.timeless {payload : Payload} {text : String} {now : Int}
    (carried : payload.Carried text now) :
    CandleFeed.timeless text = .ok
      [("type", quote payload.topic.channel.code), ("symbol", quote payload.topic.symbol.name),
        ("data", payload.write)] := by
  rw [CandleFeed.timeless, carried.members]
  rfl

theorem Payload.channel_topic (payload : Payload) : payload.topic.channel = payload.channel := by
  cases payload <;> rfl

theorem Payload.Carried.unique {payload other : Payload} {text text' : String} {now later : Int}
    (carried : payload.Carried text now) (carried' : other.Carried text' later)
    (same : CandleFeed.timeless text = CandleFeed.timeless text') : payload = other := by
  rw [carried.timeless, carried'.timeless] at same
  simp only [Except.ok.injEq, List.cons.injEq, Prod.mk.injEq, true_and, and_true] at same
  obtain ⟨type, -, data⟩ := same
  have channel := Channel.code_injective (quote_injective type)
  rw [channel_topic, channel_topic] at channel
  exact eq_of_write_eq channel data

/-- A push is offered to the subscribers of its topic, as a frame that names the topic and holds the
payload in full. Frames that are alike but for their time have one payload, and so one topic. -/
theorem push_identified (payload : Payload) (s : Service) :
    (∃ m, (s.publish payload).1 = s.sending ((s.registry.subscribers payload.topic).map fun handle =>
      (handle, s.frame (.push payload))) m) ∧
    payload.Carried (s.frame (.push payload)).text s.store.wall.millis ∧
    ∀ (other : Payload) (t : Service),
      timeless (s.frame (.push payload)).text = timeless (t.frame (.push other)).text →
      payload = other := by
  have carried := payload.carried_encode s.store.wall.millis
  refine ⟨s.publishOn_eq payload.topic payload, carried, ?_⟩
  intro other t same
  exact carried.unique (other.carried_encode t.store.wall.millis) same

theorem odd_stats_identified :
    let stats : Ticker :=
      { symbol := ⟨"\"\n:"⟩, lastPrice := ⟨false, 10, 1, by decide, by decide⟩, openPrice := .zero,
        highPrice := .zero, lowPrice := .zero, volume := ⟨true, 0, 28, by decide, by decide⟩,
        quoteVolume := .zero, timestamp := Text.minInt64 }
    let now (second : Instant) : Service :=
      .create (.create (.create (.empty 0 second Uuid.serial) .standard) 1) 1 true
    let early := now .epoch
    let late := now ⟨60, 0, by decide, by decide, by decide⟩
    Payload.decode .ticker (Payload.ticker stats).write =
        .ok (.ticker { stats with volume := ⟨false, 0, 28, by decide, by decide⟩ }) ∧
      timeless (early.frame (.push (.ticker stats))).text =
        timeless (late.frame (.push (.ticker stats))).text ∧
      timeless (early.frame (.push (.ticker stats))).text ≠
        timeless (late.frame (.push (.dayStats stats))).text := by
  intro stats now early late
  have fits : (Payload.ticker stats).Fits := ⟨by decide, by decide⟩
  obtain ⟨-, carried, unique⟩ := push_identified (.ticker stats) early
  obtain ⟨-, carried', -⟩ := push_identified (.ticker stats) late
  refine ⟨carried.decoded fits, carried.timeless.trans carried'.timeless.symm, ?_⟩
  intro same
  cases unique (.dayStats stats) late same

end CandleFeed
