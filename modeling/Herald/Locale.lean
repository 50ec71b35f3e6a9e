/- Locales and the words that depend on them.

Five locales have data of their own: a default currency, a short date form, and the words
for days and spans near the present. A locale is named by its tag, in any case, with hyphens
or underscores, or by one of a few aliases. -/
import Herald.Calendar.Pattern
import Herald.Text.Blank
namespace Herald
set_option autoImplicit false

/-- The locales with formatting data. -/
inductive Locale where
  | zhCN
  | zhTW
  | enUS
  | enGB
  | jaJP
  deriving DecidableEq, Repr

namespace Locale

/-- The tag of a locale. -/
def tag : Locale → String
  | .zhCN => "zh-CN"
  | .zhTW => "zh-TW"
  | .enUS => "en-US"
  | .enGB => "en-GB"
  | .jaJP => "ja-JP"

/-- The names of the locales, in lower case and with hyphens. -/
def aliases : List (String × Locale) := [
  ("zh-cn", .zhCN), ("zh", .zhCN), ("zh-hans", .zhCN),
  ("zh-tw", .zhTW), ("zh-hant", .zhTW), ("zh-hk", .zhTW),
  ("en-us", .enUS), ("en", .enUS),
  ("en-gb", .enGB),
  ("ja-jp", .jaJP), ("ja", .jaJP)]

/-- The locale that a text names, blanks around it aside. -/
def read? (text : String) : Option Locale :=
  let name := Text.asciiLower ((Text.trimmed text).map fun c => if c == '_' then '-' else c)
  aliases.lookup (String.ofList name)

/-- The currency used when none is named. -/
def currency : Locale → String
  | .zhCN => "CNY"
  | .zhTW => "TWD"
  | .enUS => "USD"
  | .enGB => "GBP"
  | .jaJP => "JPY"

/-- The short numeric date. -/
def dateText (locale : Locale) (date : Day) : List Char :=
  let year := integerText date.year
  let month := decimalDigits date.month
  let day := decimalDigits date.day
  match locale with
  | .zhCN | .zhTW | .jaJP => year ++ '/' :: month ++ '/' :: day
  | .enUS => month ++ '/' :: day ++ '/' :: year
  | .enGB => padded 2 date.day ++ '/' :: padded 2 date.month ++ '/' :: year

/-- A unit of a span of time. -/
inductive Span where
  | minute
  | hour
  | day
  deriving DecidableEq, Repr

/-- A span less than a minute ago. -/
def justNow : Locale → String
  | .zhCN | .zhTW => "刚刚"
  | .jaJP => "たった今"
  | .enUS | .enGB => "just now"

/-- A number of units ago. -/
def ago (locale : Locale) (count : Nat) (span : Span) : String :=
  let digits := toString count
  match locale with
  | .zhCN | .zhTW =>
    digits ++ match span with
      | .minute => "分钟前"
      | .hour => "小时前"
      | .day => "天前"
  | .jaJP =>
    digits ++ match span with
      | .minute => "分前"
      | .hour => "時間前"
      | .day => "日前"
  | .enUS | .enGB =>
    let word := match span with
      | .minute => "minute"
      | .hour => "hour"
      | .day => "day"
    if count == 1 then "1 " ++ word ++ " ago" else digits ++ " " ++ word ++ "s ago"

/-- The words for a day at most a week away, by its distance in days from today. -/
def nearDay? (locale : Locale) (distance : Int) : Option String :=
  let count := toString distance.natAbs
  if distance < -7 || 7 < distance then none
  else some <| match locale with
    | .zhCN | .zhTW =>
      if distance == 0 then "今天"
      else if distance == 1 then "明天"
      else if distance == -1 then "昨天"
      else if 0 < distance then count ++ "天后"
      else count ++ "天前"
    | .jaJP =>
      if distance == 0 then "今日"
      else if distance == 1 then "明日"
      else if distance == -1 then "昨日"
      else if 0 < distance then count ++ "日後"
      else count ++ "日前"
    | .enUS | .enGB =>
      if distance == 0 then "today"
      else if distance == 1 then "tomorrow"
      else if distance == -1 then "yesterday"
      else if 0 < distance then "in " ++ count ++ " days"
      else count ++ " days ago"

end Locale
end Herald
