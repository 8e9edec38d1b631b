/-
  The transition table of the machine `uri_parser`, as generated from the
  grammar.

  * `Action`: the actions of the grammar, under its names;
  * `row`: for each state the ranges of bytes it accepts, with the actions in
    the order in which they are performed and the next state;
  * `eofActions`: what is done at the end of the string.
-/
import Ancfl.Lib.Scanner

namespace Ancfl.UriParser

open Lib

/-- The actions of the machine `uri_parser`. -/
inductive Action where
  | marku | markh | save_scheme | save_port | save_userinfo | save_host | save_path | save_query
  | save_fragment
deriving DecidableEq

/-! ## The states -/

/-- The states 0 to 99, ten by ten. -/
def states0 : List (List (List (Edge Action))) := [
  [[],
   [⟨48, 57, [], 2⟩, ⟨65, 70, [], 2⟩, ⟨97, 102, [], 2⟩],
   [⟨48, 57, [], 454⟩, ⟨65, 70, [], 454⟩, ⟨97, 102, [], 454⟩],
   [⟨48, 57, [], 4⟩, ⟨65, 70, [], 4⟩, ⟨97, 102, [], 4⟩],
   [⟨48, 57, [], 452⟩, ⟨65, 70, [], 452⟩, ⟨97, 102, [], 452⟩],
   [⟨48, 57, [], 6⟩, ⟨65, 70, [], 6⟩, ⟨97, 102, [], 6⟩],
   [⟨48, 57, [], 455⟩, ⟨65, 70, [], 455⟩, ⟨97, 102, [], 455⟩],
   [⟨48, 57, [], 8⟩, ⟨65, 70, [], 8⟩, ⟨97, 102, [], 8⟩],
   [⟨48, 57, [], 457⟩, ⟨65, 70, [], 457⟩, ⟨97, 102, [], 457⟩],
   [⟨48, 52, [], 10⟩]],
  [[⟨48, 57, [], 11⟩],
   [⟨46, 46, [], 12⟩],
   [⟨2, 2, [], 13⟩, ⟨48, 48, [], 15⟩, ⟨49, 49, [], 27⟩, ⟨50, 50, [], 29⟩, ⟨51, 57, [], 28⟩],
   [⟨48, 52, [], 14⟩],
   [⟨48, 57, [], 15⟩],
   [⟨46, 46, [], 16⟩],
   [⟨2, 2, [], 17⟩, ⟨48, 48, [], 19⟩, ⟨49, 49, [], 23⟩, ⟨50, 50, [], 25⟩, ⟨51, 57, [], 24⟩],
   [⟨48, 52, [], 18⟩],
   [⟨48, 57, [], 19⟩],
   [⟨46, 46, [], 20⟩]],
  [[⟨2, 2, [], 21⟩, ⟨48, 48, [], 460⟩, ⟨49, 49, [], 463⟩, ⟨50, 50, [], 465⟩, ⟨51, 57, [], 464⟩],
   [⟨48, 52, [], 22⟩],
   [⟨48, 57, [], 460⟩],
   [⟨46, 46, [], 20⟩, ⟨48, 57, [], 24⟩],
   [⟨46, 46, [], 20⟩, ⟨48, 57, [], 19⟩],
   [⟨46, 46, [], 20⟩, ⟨48, 52, [], 19⟩, ⟨53, 53, [], 26⟩, ⟨54, 57, [], 19⟩],
   [⟨46, 46, [], 20⟩, ⟨48, 53, [], 19⟩],
   [⟨46, 46, [], 16⟩, ⟨48, 57, [], 28⟩],
   [⟨46, 46, [], 16⟩, ⟨48, 57, [], 15⟩],
   [⟨46, 46, [], 16⟩, ⟨48, 52, [], 15⟩, ⟨53, 53, [], 30⟩, ⟨54, 57, [], 15⟩]],
  [[⟨46, 46, [], 16⟩, ⟨48, 53, [], 15⟩],
   [⟨48, 57, [], 32⟩, ⟨65, 70, [], 32⟩, ⟨97, 102, [], 32⟩],
   [⟨48, 57, [], 467⟩, ⟨65, 70, [], 467⟩, ⟨97, 102, [], 467⟩],
   [⟨33, 33, [], 33⟩, ⟨36, 36, [], 33⟩, ⟨37, 37, [], 34⟩, ⟨38, 46, [], 33⟩, ⟨48, 59, [], 33⟩,
    ⟨61, 61, [], 33⟩, ⟨64, 64, [.save_userinfo], 469⟩, ⟨65, 90, [], 33⟩, ⟨95, 95, [], 33⟩,
    ⟨97, 122, [], 33⟩, ⟨126, 126, [], 33⟩],
   [⟨48, 57, [], 35⟩, ⟨65, 70, [], 35⟩, ⟨97, 102, [], 35⟩],
   [⟨48, 57, [], 33⟩, ⟨65, 70, [], 33⟩, ⟨97, 102, [], 33⟩],
   [⟨48, 57, [], 37⟩, ⟨65, 70, [], 37⟩, ⟨97, 102, [], 37⟩],
   [⟨48, 57, [], 470⟩, ⟨65, 70, [], 470⟩, ⟨97, 102, [], 470⟩],
   [⟨48, 57, [], 39⟩, ⟨58, 58, [], 146⟩, ⟨65, 70, [], 39⟩, ⟨97, 102, [], 39⟩, ⟨118, 118, [], 225⟩],
   [⟨48, 57, [], 40⟩, ⟨58, 58, [], 43⟩, ⟨65, 70, [], 40⟩, ⟨97, 102, [], 40⟩]],
  [[⟨48, 57, [], 41⟩, ⟨58, 58, [], 43⟩, ⟨65, 70, [], 41⟩, ⟨97, 102, [], 41⟩],
   [⟨48, 57, [], 42⟩, ⟨58, 58, [], 43⟩, ⟨65, 70, [], 42⟩, ⟨97, 102, [], 42⟩],
   [⟨58, 58, [], 43⟩],
   [⟨48, 57, [], 44⟩, ⟨58, 58, [], 141⟩, ⟨65, 70, [], 44⟩, ⟨97, 102, [], 44⟩],
   [⟨48, 57, [], 45⟩, ⟨58, 58, [], 48⟩, ⟨65, 70, [], 45⟩, ⟨97, 102, [], 45⟩],
   [⟨48, 57, [], 46⟩, ⟨58, 58, [], 48⟩, ⟨65, 70, [], 46⟩, ⟨97, 102, [], 46⟩],
   [⟨48, 57, [], 47⟩, ⟨58, 58, [], 48⟩, ⟨65, 70, [], 47⟩, ⟨97, 102, [], 47⟩],
   [⟨58, 58, [], 48⟩],
   [⟨48, 57, [], 49⟩, ⟨58, 58, [], 136⟩, ⟨65, 70, [], 49⟩, ⟨97, 102, [], 49⟩],
   [⟨48, 57, [], 50⟩, ⟨58, 58, [], 53⟩, ⟨65, 70, [], 50⟩, ⟨97, 102, [], 50⟩]],
  [[⟨48, 57, [], 51⟩, ⟨58, 58, [], 53⟩, ⟨65, 70, [], 51⟩, ⟨97, 102, [], 51⟩],
   [⟨48, 57, [], 52⟩, ⟨58, 58, [], 53⟩, ⟨65, 70, [], 52⟩, ⟨97, 102, [], 52⟩],
   [⟨58, 58, [], 53⟩],
   [⟨48, 57, [], 54⟩, ⟨58, 58, [], 131⟩, ⟨65, 70, [], 54⟩, ⟨97, 102, [], 54⟩],
   [⟨48, 57, [], 55⟩, ⟨58, 58, [], 58⟩, ⟨65, 70, [], 55⟩, ⟨97, 102, [], 55⟩],
   [⟨48, 57, [], 56⟩, ⟨58, 58, [], 58⟩, ⟨65, 70, [], 56⟩, ⟨97, 102, [], 56⟩],
   [⟨48, 57, [], 57⟩, ⟨58, 58, [], 58⟩, ⟨65, 70, [], 57⟩, ⟨97, 102, [], 57⟩],
   [⟨58, 58, [], 58⟩],
   [⟨48, 57, [], 59⟩, ⟨58, 58, [], 126⟩, ⟨65, 70, [], 59⟩, ⟨97, 102, [], 59⟩],
   [⟨48, 57, [], 60⟩, ⟨58, 58, [], 63⟩, ⟨65, 70, [], 60⟩, ⟨97, 102, [], 60⟩]],
  [[⟨48, 57, [], 61⟩, ⟨58, 58, [], 63⟩, ⟨65, 70, [], 61⟩, ⟨97, 102, [], 61⟩],
   [⟨48, 57, [], 62⟩, ⟨58, 58, [], 63⟩, ⟨65, 70, [], 62⟩, ⟨97, 102, [], 62⟩],
   [⟨58, 58, [], 63⟩],
   [⟨48, 57, [], 64⟩, ⟨58, 58, [], 113⟩, ⟨65, 70, [], 64⟩, ⟨97, 102, [], 64⟩],
   [⟨48, 57, [], 65⟩, ⟨58, 58, [], 68⟩, ⟨65, 70, [], 65⟩, ⟨97, 102, [], 65⟩],
   [⟨48, 57, [], 66⟩, ⟨58, 58, [], 68⟩, ⟨65, 70, [], 66⟩, ⟨97, 102, [], 66⟩],
   [⟨48, 57, [], 67⟩, ⟨58, 58, [], 68⟩, ⟨65, 70, [], 67⟩, ⟨97, 102, [], 67⟩],
   [⟨58, 58, [], 68⟩],
   [⟨2, 2, [], 69⟩, ⟨48, 48, [], 96⟩, ⟨49, 49, [], 104⟩, ⟨50, 50, [], 107⟩, ⟨51, 57, [], 110⟩,
    ⟨58, 58, [], 111⟩, ⟨65, 70, [], 112⟩, ⟨97, 102, [], 112⟩],
   [⟨48, 52, [], 70⟩]],
  [[⟨48, 57, [], 71⟩],
   [⟨46, 46, [], 72⟩],
   [⟨2, 2, [], 73⟩, ⟨48, 48, [], 75⟩, ⟨49, 49, [], 92⟩, ⟨50, 50, [], 94⟩, ⟨51, 57, [], 93⟩],
   [⟨48, 52, [], 74⟩],
   [⟨48, 57, [], 75⟩],
   [⟨46, 46, [], 76⟩],
   [⟨2, 2, [], 77⟩, ⟨48, 48, [], 79⟩, ⟨49, 49, [], 88⟩, ⟨50, 50, [], 90⟩, ⟨51, 57, [], 89⟩],
   [⟨48, 52, [], 78⟩],
   [⟨48, 57, [], 79⟩],
   [⟨46, 46, [], 80⟩]],
  [[⟨2, 2, [], 81⟩, ⟨48, 48, [], 83⟩, ⟨49, 49, [], 84⟩, ⟨50, 50, [], 86⟩, ⟨51, 57, [], 85⟩],
   [⟨48, 52, [], 82⟩],
   [⟨48, 57, [], 83⟩],
   [⟨93, 93, [], 460⟩],
   [⟨48, 57, [], 85⟩, ⟨93, 93, [], 460⟩],
   [⟨48, 57, [], 83⟩, ⟨93, 93, [], 460⟩],
   [⟨48, 52, [], 83⟩, ⟨53, 53, [], 87⟩, ⟨54, 57, [], 83⟩, ⟨93, 93, [], 460⟩],
   [⟨48, 53, [], 83⟩, ⟨93, 93, [], 460⟩],
   [⟨46, 46, [], 80⟩, ⟨48, 57, [], 89⟩],
   [⟨46, 46, [], 80⟩, ⟨48, 57, [], 79⟩]],
  [[⟨46, 46, [], 80⟩, ⟨48, 52, [], 79⟩, ⟨53, 53, [], 91⟩, ⟨54, 57, [], 79⟩],
   [⟨46, 46, [], 80⟩, ⟨48, 53, [], 79⟩],
   [⟨46, 46, [], 76⟩, ⟨48, 57, [], 93⟩],
   [⟨46, 46, [], 76⟩, ⟨48, 57, [], 75⟩],
   [⟨46, 46, [], 76⟩, ⟨48, 52, [], 75⟩, ⟨53, 53, [], 95⟩, ⟨54, 57, [], 75⟩],
   [⟨46, 46, [], 76⟩, ⟨48, 53, [], 75⟩],
   [⟨46, 46, [], 72⟩, ⟨48, 57, [], 97⟩, ⟨58, 58, [], 100⟩, ⟨65, 70, [], 97⟩, ⟨97, 102, [], 97⟩],
   [⟨48, 57, [], 98⟩, ⟨58, 58, [], 100⟩, ⟨65, 70, [], 98⟩, ⟨97, 102, [], 98⟩],
   [⟨48, 57, [], 99⟩, ⟨58, 58, [], 100⟩, ⟨65, 70, [], 99⟩, ⟨97, 102, [], 99⟩],
   [⟨58, 58, [], 100⟩]]]

/-- The states 100 to 199, ten by ten. -/
def states100 : List (List (List (Edge Action))) := [
  [[⟨48, 57, [], 101⟩, ⟨58, 58, [], 83⟩, ⟨65, 70, [], 101⟩, ⟨97, 102, [], 101⟩],
   [⟨48, 57, [], 102⟩, ⟨65, 70, [], 102⟩, ⟨93, 93, [], 460⟩, ⟨97, 102, [], 102⟩],
   [⟨48, 57, [], 103⟩, ⟨65, 70, [], 103⟩, ⟨93, 93, [], 460⟩, ⟨97, 102, [], 103⟩],
   [⟨48, 57, [], 83⟩, ⟨65, 70, [], 83⟩, ⟨93, 93, [], 460⟩, ⟨97, 102, [], 83⟩],
   [⟨46, 46, [], 72⟩, ⟨48, 57, [], 105⟩, ⟨58, 58, [], 100⟩, ⟨65, 70, [], 97⟩, ⟨97, 102, [], 97⟩],
   [⟨46, 46, [], 72⟩, ⟨48, 57, [], 106⟩, ⟨58, 58, [], 100⟩, ⟨65, 70, [], 98⟩, ⟨97, 102, [], 98⟩],
   [⟨46, 46, [], 72⟩, ⟨48, 57, [], 99⟩, ⟨58, 58, [], 100⟩, ⟨65, 70, [], 99⟩, ⟨97, 102, [], 99⟩],
   [⟨46, 46, [], 72⟩, ⟨48, 52, [], 108⟩, ⟨53, 53, [], 109⟩, ⟨54, 57, [], 108⟩, ⟨58, 58, [], 100⟩,
    ⟨65, 70, [], 97⟩, ⟨97, 102, [], 97⟩],
   [⟨46, 46, [], 72⟩, ⟨48, 57, [], 98⟩, ⟨58, 58, [], 100⟩, ⟨65, 70, [], 98⟩, ⟨97, 102, [], 98⟩],
   [⟨46, 46, [], 72⟩, ⟨48, 53, [], 106⟩, ⟨54, 57, [], 98⟩, ⟨58, 58, [], 100⟩, ⟨65, 70, [], 98⟩,
    ⟨97, 102, [], 98⟩]],
  [[⟨46, 46, [], 72⟩, ⟨48, 57, [], 108⟩, ⟨58, 58, [], 100⟩, ⟨65, 70, [], 97⟩, ⟨97, 102, [], 97⟩],
   [⟨48, 57, [], 101⟩, ⟨65, 70, [], 101⟩, ⟨97, 102, [], 101⟩],
   [⟨48, 57, [], 97⟩, ⟨58, 58, [], 100⟩, ⟨65, 70, [], 97⟩, ⟨97, 102, [], 97⟩],
   [⟨2, 2, [], 69⟩, ⟨48, 48, [], 114⟩, ⟨49, 49, [], 118⟩, ⟨50, 50, [], 121⟩, ⟨51, 57, [], 124⟩,
    ⟨65, 70, [], 125⟩, ⟨97, 102, [], 125⟩],
   [⟨46, 46, [], 72⟩, ⟨48, 57, [], 115⟩, ⟨58, 58, [], 111⟩, ⟨65, 70, [], 115⟩, ⟨97, 102, [], 115⟩],
   [⟨48, 57, [], 116⟩, ⟨58, 58, [], 111⟩, ⟨65, 70, [], 116⟩, ⟨97, 102, [], 116⟩],
   [⟨48, 57, [], 117⟩, ⟨58, 58, [], 111⟩, ⟨65, 70, [], 117⟩, ⟨97, 102, [], 117⟩],
   [⟨58, 58, [], 111⟩],
   [⟨46, 46, [], 72⟩, ⟨48, 57, [], 119⟩, ⟨58, 58, [], 111⟩, ⟨65, 70, [], 115⟩, ⟨97, 102, [], 115⟩],
   [⟨46, 46, [], 72⟩, ⟨48, 57, [], 120⟩, ⟨58, 58, [], 111⟩, ⟨65, 70, [], 116⟩, ⟨97, 102, [], 116⟩]],
  [[⟨46, 46, [], 72⟩, ⟨48, 57, [], 117⟩, ⟨58, 58, [], 111⟩, ⟨65, 70, [], 117⟩, ⟨97, 102, [], 117⟩],
   [⟨46, 46, [], 72⟩, ⟨48, 52, [], 122⟩, ⟨53, 53, [], 123⟩, ⟨54, 57, [], 122⟩, ⟨58, 58, [], 111⟩,
    ⟨65, 70, [], 115⟩, ⟨97, 102, [], 115⟩],
   [⟨46, 46, [], 72⟩, ⟨48, 57, [], 116⟩, ⟨58, 58, [], 111⟩, ⟨65, 70, [], 116⟩, ⟨97, 102, [], 116⟩],
   [⟨46, 46, [], 72⟩, ⟨48, 53, [], 120⟩, ⟨54, 57, [], 116⟩, ⟨58, 58, [], 111⟩, ⟨65, 70, [], 116⟩,
    ⟨97, 102, [], 116⟩],
   [⟨46, 46, [], 72⟩, ⟨48, 57, [], 122⟩, ⟨58, 58, [], 111⟩, ⟨65, 70, [], 115⟩, ⟨97, 102, [], 115⟩],
   [⟨48, 57, [], 115⟩, ⟨58, 58, [], 111⟩, ⟨65, 70, [], 115⟩, ⟨97, 102, [], 115⟩],
   [⟨48, 57, [], 127⟩, ⟨65, 70, [], 127⟩, ⟨97, 102, [], 127⟩],
   [⟨48, 57, [], 128⟩, ⟨58, 58, [], 113⟩, ⟨65, 70, [], 128⟩, ⟨97, 102, [], 128⟩],
   [⟨48, 57, [], 129⟩, ⟨58, 58, [], 113⟩, ⟨65, 70, [], 129⟩, ⟨97, 102, [], 129⟩],
   [⟨48, 57, [], 130⟩, ⟨58, 58, [], 113⟩, ⟨65, 70, [], 130⟩, ⟨97, 102, [], 130⟩]],
  [[⟨58, 58, [], 113⟩],
   [⟨48, 57, [], 132⟩, ⟨65, 70, [], 132⟩, ⟨97, 102, [], 132⟩],
   [⟨48, 57, [], 133⟩, ⟨58, 58, [], 126⟩, ⟨65, 70, [], 133⟩, ⟨97, 102, [], 133⟩],
   [⟨48, 57, [], 134⟩, ⟨58, 58, [], 126⟩, ⟨65, 70, [], 134⟩, ⟨97, 102, [], 134⟩],
   [⟨48, 57, [], 135⟩, ⟨58, 58, [], 126⟩, ⟨65, 70, [], 135⟩, ⟨97, 102, [], 135⟩],
   [⟨58, 58, [], 126⟩],
   [⟨48, 57, [], 137⟩, ⟨65, 70, [], 137⟩, ⟨97, 102, [], 137⟩],
   [⟨48, 57, [], 138⟩, ⟨58, 58, [], 131⟩, ⟨65, 70, [], 138⟩, ⟨97, 102, [], 138⟩],
   [⟨48, 57, [], 139⟩, ⟨58, 58, [], 131⟩, ⟨65, 70, [], 139⟩, ⟨97, 102, [], 139⟩],
   [⟨48, 57, [], 140⟩, ⟨58, 58, [], 131⟩, ⟨65, 70, [], 140⟩, ⟨97, 102, [], 140⟩]],
  [[⟨58, 58, [], 131⟩],
   [⟨48, 57, [], 142⟩, ⟨65, 70, [], 142⟩, ⟨97, 102, [], 142⟩],
   [⟨48, 57, [], 143⟩, ⟨58, 58, [], 136⟩, ⟨65, 70, [], 143⟩, ⟨97, 102, [], 143⟩],
   [⟨48, 57, [], 144⟩, ⟨58, 58, [], 136⟩, ⟨65, 70, [], 144⟩, ⟨97, 102, [], 144⟩],
   [⟨48, 57, [], 145⟩, ⟨58, 58, [], 136⟩, ⟨65, 70, [], 145⟩, ⟨97, 102, [], 145⟩],
   [⟨58, 58, [], 136⟩],
   [⟨58, 58, [], 147⟩],
   [⟨2, 2, [], 69⟩, ⟨48, 48, [], 148⟩, ⟨49, 49, [], 217⟩, ⟨50, 50, [], 220⟩, ⟨51, 57, [], 223⟩,
    ⟨65, 70, [], 224⟩, ⟨93, 93, [], 460⟩, ⟨97, 102, [], 224⟩],
   [⟨46, 46, [], 72⟩, ⟨48, 57, [], 149⟩, ⟨58, 58, [], 152⟩, ⟨65, 70, [], 149⟩, ⟨93, 93, [], 460⟩,
    ⟨97, 102, [], 149⟩],
   [⟨48, 57, [], 150⟩, ⟨58, 58, [], 152⟩, ⟨65, 70, [], 150⟩, ⟨93, 93, [], 460⟩,
    ⟨97, 102, [], 150⟩]],
  [[⟨48, 57, [], 151⟩, ⟨58, 58, [], 152⟩, ⟨65, 70, [], 151⟩, ⟨93, 93, [], 460⟩,
    ⟨97, 102, [], 151⟩],
   [⟨58, 58, [], 152⟩, ⟨93, 93, [], 460⟩],
   [⟨2, 2, [], 69⟩, ⟨48, 48, [], 153⟩, ⟨49, 49, [], 209⟩, ⟨50, 50, [], 212⟩, ⟨51, 57, [], 215⟩,
    ⟨65, 70, [], 216⟩, ⟨97, 102, [], 216⟩],
   [⟨46, 46, [], 72⟩, ⟨48, 57, [], 154⟩, ⟨58, 58, [], 157⟩, ⟨65, 70, [], 154⟩, ⟨93, 93, [], 460⟩,
    ⟨97, 102, [], 154⟩],
   [⟨48, 57, [], 155⟩, ⟨58, 58, [], 157⟩, ⟨65, 70, [], 155⟩, ⟨93, 93, [], 460⟩,
    ⟨97, 102, [], 155⟩],
   [⟨48, 57, [], 156⟩, ⟨58, 58, [], 157⟩, ⟨65, 70, [], 156⟩, ⟨93, 93, [], 460⟩,
    ⟨97, 102, [], 156⟩],
   [⟨58, 58, [], 157⟩, ⟨93, 93, [], 460⟩],
   [⟨2, 2, [], 69⟩, ⟨48, 48, [], 158⟩, ⟨49, 49, [], 201⟩, ⟨50, 50, [], 204⟩, ⟨51, 57, [], 207⟩,
    ⟨65, 70, [], 208⟩, ⟨97, 102, [], 208⟩],
   [⟨46, 46, [], 72⟩, ⟨48, 57, [], 159⟩, ⟨58, 58, [], 162⟩, ⟨65, 70, [], 159⟩, ⟨93, 93, [], 460⟩,
    ⟨97, 102, [], 159⟩],
   [⟨48, 57, [], 160⟩, ⟨58, 58, [], 162⟩, ⟨65, 70, [], 160⟩, ⟨93, 93, [], 460⟩,
    ⟨97, 102, [], 160⟩]],
  [[⟨48, 57, [], 161⟩, ⟨58, 58, [], 162⟩, ⟨65, 70, [], 161⟩, ⟨93, 93, [], 460⟩,
    ⟨97, 102, [], 161⟩],
   [⟨58, 58, [], 162⟩, ⟨93, 93, [], 460⟩],
   [⟨2, 2, [], 69⟩, ⟨48, 48, [], 163⟩, ⟨49, 49, [], 193⟩, ⟨50, 50, [], 196⟩, ⟨51, 57, [], 199⟩,
    ⟨65, 70, [], 200⟩, ⟨97, 102, [], 200⟩],
   [⟨46, 46, [], 72⟩, ⟨48, 57, [], 164⟩, ⟨58, 58, [], 167⟩, ⟨65, 70, [], 164⟩, ⟨93, 93, [], 460⟩,
    ⟨97, 102, [], 164⟩],
   [⟨48, 57, [], 165⟩, ⟨58, 58, [], 167⟩, ⟨65, 70, [], 165⟩, ⟨93, 93, [], 460⟩,
    ⟨97, 102, [], 165⟩],
   [⟨48, 57, [], 166⟩, ⟨58, 58, [], 167⟩, ⟨65, 70, [], 166⟩, ⟨93, 93, [], 460⟩,
    ⟨97, 102, [], 166⟩],
   [⟨58, 58, [], 167⟩, ⟨93, 93, [], 460⟩],
   [⟨2, 2, [], 69⟩, ⟨48, 48, [], 168⟩, ⟨49, 49, [], 185⟩, ⟨50, 50, [], 188⟩, ⟨51, 57, [], 191⟩,
    ⟨65, 70, [], 192⟩, ⟨97, 102, [], 192⟩],
   [⟨46, 46, [], 72⟩, ⟨48, 57, [], 169⟩, ⟨58, 58, [], 172⟩, ⟨65, 70, [], 169⟩, ⟨93, 93, [], 460⟩,
    ⟨97, 102, [], 169⟩],
   [⟨48, 57, [], 170⟩, ⟨58, 58, [], 172⟩, ⟨65, 70, [], 170⟩, ⟨93, 93, [], 460⟩,
    ⟨97, 102, [], 170⟩]],
  [[⟨48, 57, [], 171⟩, ⟨58, 58, [], 172⟩, ⟨65, 70, [], 171⟩, ⟨93, 93, [], 460⟩,
    ⟨97, 102, [], 171⟩],
   [⟨58, 58, [], 172⟩, ⟨93, 93, [], 460⟩],
   [⟨2, 2, [], 69⟩, ⟨48, 48, [], 173⟩, ⟨49, 49, [], 177⟩, ⟨50, 50, [], 180⟩, ⟨51, 57, [], 183⟩,
    ⟨65, 70, [], 184⟩, ⟨97, 102, [], 184⟩],
   [⟨46, 46, [], 72⟩, ⟨48, 57, [], 174⟩, ⟨58, 58, [], 111⟩, ⟨65, 70, [], 174⟩, ⟨93, 93, [], 460⟩,
    ⟨97, 102, [], 174⟩],
   [⟨48, 57, [], 175⟩, ⟨58, 58, [], 111⟩, ⟨65, 70, [], 175⟩, ⟨93, 93, [], 460⟩,
    ⟨97, 102, [], 175⟩],
   [⟨48, 57, [], 176⟩, ⟨58, 58, [], 111⟩, ⟨65, 70, [], 176⟩, ⟨93, 93, [], 460⟩,
    ⟨97, 102, [], 176⟩],
   [⟨58, 58, [], 111⟩, ⟨93, 93, [], 460⟩],
   [⟨46, 46, [], 72⟩, ⟨48, 57, [], 178⟩, ⟨58, 58, [], 111⟩, ⟨65, 70, [], 174⟩, ⟨93, 93, [], 460⟩,
    ⟨97, 102, [], 174⟩],
   [⟨46, 46, [], 72⟩, ⟨48, 57, [], 179⟩, ⟨58, 58, [], 111⟩, ⟨65, 70, [], 175⟩, ⟨93, 93, [], 460⟩,
    ⟨97, 102, [], 175⟩],
   [⟨46, 46, [], 72⟩, ⟨48, 57, [], 176⟩, ⟨58, 58, [], 111⟩, ⟨65, 70, [], 176⟩, ⟨93, 93, [], 460⟩,
    ⟨97, 102, [], 176⟩]],
  [[⟨46, 46, [], 72⟩, ⟨48, 52, [], 181⟩, ⟨53, 53, [], 182⟩, ⟨54, 57, [], 181⟩, ⟨58, 58, [], 111⟩,
    ⟨65, 70, [], 174⟩, ⟨93, 93, [], 460⟩, ⟨97, 102, [], 174⟩],
   [⟨46, 46, [], 72⟩, ⟨48, 57, [], 175⟩, ⟨58, 58, [], 111⟩, ⟨65, 70, [], 175⟩, ⟨93, 93, [], 460⟩,
    ⟨97, 102, [], 175⟩],
   [⟨46, 46, [], 72⟩, ⟨48, 53, [], 179⟩, ⟨54, 57, [], 175⟩, ⟨58, 58, [], 111⟩, ⟨65, 70, [], 175⟩,
    ⟨93, 93, [], 460⟩, ⟨97, 102, [], 175⟩],
   [⟨46, 46, [], 72⟩, ⟨48, 57, [], 181⟩, ⟨58, 58, [], 111⟩, ⟨65, 70, [], 174⟩, ⟨93, 93, [], 460⟩,
    ⟨97, 102, [], 174⟩],
   [⟨48, 57, [], 174⟩, ⟨58, 58, [], 111⟩, ⟨65, 70, [], 174⟩, ⟨93, 93, [], 460⟩,
    ⟨97, 102, [], 174⟩],
   [⟨46, 46, [], 72⟩, ⟨48, 57, [], 186⟩, ⟨58, 58, [], 172⟩, ⟨65, 70, [], 169⟩, ⟨93, 93, [], 460⟩,
    ⟨97, 102, [], 169⟩],
   [⟨46, 46, [], 72⟩, ⟨48, 57, [], 187⟩, ⟨58, 58, [], 172⟩, ⟨65, 70, [], 170⟩, ⟨93, 93, [], 460⟩,
    ⟨97, 102, [], 170⟩],
   [⟨46, 46, [], 72⟩, ⟨48, 57, [], 171⟩, ⟨58, 58, [], 172⟩, ⟨65, 70, [], 171⟩, ⟨93, 93, [], 460⟩,
    ⟨97, 102, [], 171⟩],
   [⟨46, 46, [], 72⟩, ⟨48, 52, [], 189⟩, ⟨53, 53, [], 190⟩, ⟨54, 57, [], 189⟩, ⟨58, 58, [], 172⟩,
    ⟨65, 70, [], 169⟩, ⟨93, 93, [], 460⟩, ⟨97, 102, [], 169⟩],
   [⟨46, 46, [], 72⟩, ⟨48, 57, [], 170⟩, ⟨58, 58, [], 172⟩, ⟨65, 70, [], 170⟩, ⟨93, 93, [], 460⟩,
    ⟨97, 102, [], 170⟩]],
  [[⟨46, 46, [], 72⟩, ⟨48, 53, [], 187⟩, ⟨54, 57, [], 170⟩, ⟨58, 58, [], 172⟩, ⟨65, 70, [], 170⟩,
    ⟨93, 93, [], 460⟩, ⟨97, 102, [], 170⟩],
   [⟨46, 46, [], 72⟩, ⟨48, 57, [], 189⟩, ⟨58, 58, [], 172⟩, ⟨65, 70, [], 169⟩, ⟨93, 93, [], 460⟩,
    ⟨97, 102, [], 169⟩],
   [⟨48, 57, [], 169⟩, ⟨58, 58, [], 172⟩, ⟨65, 70, [], 169⟩, ⟨93, 93, [], 460⟩,
    ⟨97, 102, [], 169⟩],
   [⟨46, 46, [], 72⟩, ⟨48, 57, [], 194⟩, ⟨58, 58, [], 167⟩, ⟨65, 70, [], 164⟩, ⟨93, 93, [], 460⟩,
    ⟨97, 102, [], 164⟩],
   [⟨46, 46, [], 72⟩, ⟨48, 57, [], 195⟩, ⟨58, 58, [], 167⟩, ⟨65, 70, [], 165⟩, ⟨93, 93, [], 460⟩,
    ⟨97, 102, [], 165⟩],
   [⟨46, 46, [], 72⟩, ⟨48, 57, [], 166⟩, ⟨58, 58, [], 167⟩, ⟨65, 70, [], 166⟩, ⟨93, 93, [], 460⟩,
    ⟨97, 102, [], 166⟩],
   [⟨46, 46, [], 72⟩, ⟨48, 52, [], 197⟩, ⟨53, 53, [], 198⟩, ⟨54, 57, [], 197⟩, ⟨58, 58, [], 167⟩,
    ⟨65, 70, [], 164⟩, ⟨93, 93, [], 460⟩, ⟨97, 102, [], 164⟩],
   [⟨46, 46, [], 72⟩, ⟨48, 57, [], 165⟩, ⟨58, 58, [], 167⟩, ⟨65, 70, [], 165⟩, ⟨93, 93, [], 460⟩,
    ⟨97, 102, [], 165⟩],
   [⟨46, 46, [], 72⟩, ⟨48, 53, [], 195⟩, ⟨54, 57, [], 165⟩, ⟨58, 58, [], 167⟩, ⟨65, 70, [], 165⟩,
    ⟨93, 93, [], 460⟩, ⟨97, 102, [], 165⟩],
   [⟨46, 46, [], 72⟩, ⟨48, 57, [], 197⟩, ⟨58, 58, [], 167⟩, ⟨65, 70, [], 164⟩, ⟨93, 93, [], 460⟩,
    ⟨97, 102, [], 164⟩]]]

/-- The states 200 to 299, ten by ten. -/
def states200 : List (List (List (Edge Action))) := [
  [[⟨48, 57, [], 164⟩, ⟨58, 58, [], 167⟩, ⟨65, 70, [], 164⟩, ⟨93, 93, [], 460⟩,
    ⟨97, 102, [], 164⟩],
   [⟨46, 46, [], 72⟩, ⟨48, 57, [], 202⟩, ⟨58, 58, [], 162⟩, ⟨65, 70, [], 159⟩, ⟨93, 93, [], 460⟩,
    ⟨97, 102, [], 159⟩],
   [⟨46, 46, [], 72⟩, ⟨48, 57, [], 203⟩, ⟨58, 58, [], 162⟩, ⟨65, 70, [], 160⟩, ⟨93, 93, [], 460⟩,
    ⟨97, 102, [], 160⟩],
   [⟨46, 46, [], 72⟩, ⟨48, 57, [], 161⟩, ⟨58, 58, [], 162⟩, ⟨65, 70, [], 161⟩, ⟨93, 93, [], 460⟩,
    ⟨97, 102, [], 161⟩],
   [⟨46, 46, [], 72⟩, ⟨48, 52, [], 205⟩, ⟨53, 53, [], 206⟩, ⟨54, 57, [], 205⟩, ⟨58, 58, [], 162⟩,
    ⟨65, 70, [], 159⟩, ⟨93, 93, [], 460⟩, ⟨97, 102, [], 159⟩],
   [⟨46, 46, [], 72⟩, ⟨48, 57, [], 160⟩, ⟨58, 58, [], 162⟩, ⟨65, 70, [], 160⟩, ⟨93, 93, [], 460⟩,
    ⟨97, 102, [], 160⟩],
   [⟨46, 46, [], 72⟩, ⟨48, 53, [], 203⟩, ⟨54, 57, [], 160⟩, ⟨58, 58, [], 162⟩, ⟨65, 70, [], 160⟩,
    ⟨93, 93, [], 460⟩, ⟨97, 102, [], 160⟩],
   [⟨46, 46, [], 72⟩, ⟨48, 57, [], 205⟩, ⟨58, 58, [], 162⟩, ⟨65, 70, [], 159⟩, ⟨93, 93, [], 460⟩,
    ⟨97, 102, [], 159⟩],
   [⟨48, 57, [], 159⟩, ⟨58, 58, [], 162⟩, ⟨65, 70, [], 159⟩, ⟨93, 93, [], 460⟩,
    ⟨97, 102, [], 159⟩],
   [⟨46, 46, [], 72⟩, ⟨48, 57, [], 210⟩, ⟨58, 58, [], 157⟩, ⟨65, 70, [], 154⟩, ⟨93, 93, [], 460⟩,
    ⟨97, 102, [], 154⟩]],
  [[⟨46, 46, [], 72⟩, ⟨48, 57, [], 211⟩, ⟨58, 58, [], 157⟩, ⟨65, 70, [], 155⟩, ⟨93, 93, [], 460⟩,
    ⟨97, 102, [], 155⟩],
   [⟨46, 46, [], 72⟩, ⟨48, 57, [], 156⟩, ⟨58, 58, [], 157⟩, ⟨65, 70, [], 156⟩, ⟨93, 93, [], 460⟩,
    ⟨97, 102, [], 156⟩],
   [⟨46, 46, [], 72⟩, ⟨48, 52, [], 213⟩, ⟨53, 53, [], 214⟩, ⟨54, 57, [], 213⟩, ⟨58, 58, [], 157⟩,
    ⟨65, 70, [], 154⟩, ⟨93, 93, [], 460⟩, ⟨97, 102, [], 154⟩],
   [⟨46, 46, [], 72⟩, ⟨48, 57, [], 155⟩, ⟨58, 58, [], 157⟩, ⟨65, 70, [], 155⟩, ⟨93, 93, [], 460⟩,
    ⟨97, 102, [], 155⟩],
   [⟨46, 46, [], 72⟩, ⟨48, 53, [], 211⟩, ⟨54, 57, [], 155⟩, ⟨58, 58, [], 157⟩, ⟨65, 70, [], 155⟩,
    ⟨93, 93, [], 460⟩, ⟨97, 102, [], 155⟩],
   [⟨46, 46, [], 72⟩, ⟨48, 57, [], 213⟩, ⟨58, 58, [], 157⟩, ⟨65, 70, [], 154⟩, ⟨93, 93, [], 460⟩,
    ⟨97, 102, [], 154⟩],
   [⟨48, 57, [], 154⟩, ⟨58, 58, [], 157⟩, ⟨65, 70, [], 154⟩, ⟨93, 93, [], 460⟩,
    ⟨97, 102, [], 154⟩],
   [⟨46, 46, [], 72⟩, ⟨48, 57, [], 218⟩, ⟨58, 58, [], 152⟩, ⟨65, 70, [], 149⟩, ⟨93, 93, [], 460⟩,
    ⟨97, 102, [], 149⟩],
   [⟨46, 46, [], 72⟩, ⟨48, 57, [], 219⟩, ⟨58, 58, [], 152⟩, ⟨65, 70, [], 150⟩, ⟨93, 93, [], 460⟩,
    ⟨97, 102, [], 150⟩],
   [⟨46, 46, [], 72⟩, ⟨48, 57, [], 151⟩, ⟨58, 58, [], 152⟩, ⟨65, 70, [], 151⟩, ⟨93, 93, [], 460⟩,
    ⟨97, 102, [], 151⟩]],
  [[⟨46, 46, [], 72⟩, ⟨48, 52, [], 221⟩, ⟨53, 53, [], 222⟩, ⟨54, 57, [], 221⟩, ⟨58, 58, [], 152⟩,
    ⟨65, 70, [], 149⟩, ⟨93, 93, [], 460⟩, ⟨97, 102, [], 149⟩],
   [⟨46, 46, [], 72⟩, ⟨48, 57, [], 150⟩, ⟨58, 58, [], 152⟩, ⟨65, 70, [], 150⟩, ⟨93, 93, [], 460⟩,
    ⟨97, 102, [], 150⟩],
   [⟨46, 46, [], 72⟩, ⟨48, 53, [], 219⟩, ⟨54, 57, [], 150⟩, ⟨58, 58, [], 152⟩, ⟨65, 70, [], 150⟩,
    ⟨93, 93, [], 460⟩, ⟨97, 102, [], 150⟩],
   [⟨46, 46, [], 72⟩, ⟨48, 57, [], 221⟩, ⟨58, 58, [], 152⟩, ⟨65, 70, [], 149⟩, ⟨93, 93, [], 460⟩,
    ⟨97, 102, [], 149⟩],
   [⟨48, 57, [], 149⟩, ⟨58, 58, [], 152⟩, ⟨65, 70, [], 149⟩, ⟨93, 93, [], 460⟩,
    ⟨97, 102, [], 149⟩],
   [⟨48, 57, [], 226⟩, ⟨65, 70, [], 226⟩, ⟨97, 102, [], 226⟩],
   [⟨46, 46, [], 227⟩, ⟨48, 57, [], 226⟩, ⟨65, 70, [], 226⟩, ⟨97, 102, [], 226⟩],
   [⟨33, 33, [], 228⟩, ⟨36, 36, [], 228⟩, ⟨38, 46, [], 228⟩, ⟨48, 59, [], 228⟩,
    ⟨61, 61, [], 228⟩, ⟨65, 90, [], 228⟩, ⟨95, 95, [], 228⟩, ⟨97, 122, [], 228⟩,
    ⟨126, 126, [], 228⟩],
   [⟨33, 33, [], 228⟩, ⟨36, 36, [], 228⟩, ⟨38, 46, [], 228⟩, ⟨48, 59, [], 228⟩,
    ⟨61, 61, [], 228⟩, ⟨65, 90, [], 228⟩, ⟨93, 93, [], 460⟩, ⟨95, 95, [], 228⟩,
    ⟨97, 122, [], 228⟩, ⟨126, 126, [], 228⟩],
   [⟨48, 52, [], 230⟩]],
  [[⟨48, 57, [], 231⟩],
   [⟨46, 46, [], 232⟩],
   [⟨2, 2, [], 233⟩, ⟨48, 48, [], 235⟩, ⟨49, 49, [], 249⟩, ⟨50, 50, [], 251⟩, ⟨51, 57, [], 250⟩],
   [⟨48, 52, [], 234⟩],
   [⟨48, 57, [], 235⟩],
   [⟨46, 46, [], 236⟩],
   [⟨2, 2, [], 237⟩, ⟨48, 48, [], 239⟩, ⟨49, 49, [], 245⟩, ⟨50, 50, [], 247⟩, ⟨51, 57, [], 246⟩],
   [⟨48, 52, [], 238⟩],
   [⟨48, 57, [], 239⟩],
   [⟨46, 46, [], 240⟩]],
  [[⟨2, 2, [], 241⟩, ⟨48, 48, [], 512⟩, ⟨49, 49, [], 516⟩, ⟨50, 50, [], 518⟩, ⟨51, 57, [], 517⟩],
   [⟨48, 52, [], 242⟩],
   [⟨48, 57, [], 512⟩],
   [⟨48, 57, [], 244⟩, ⟨65, 70, [], 244⟩, ⟨97, 102, [], 244⟩],
   [⟨48, 57, [], 513⟩, ⟨65, 70, [], 513⟩, ⟨97, 102, [], 513⟩],
   [⟨46, 46, [], 240⟩, ⟨48, 57, [], 246⟩],
   [⟨46, 46, [], 240⟩, ⟨48, 57, [], 239⟩],
   [⟨46, 46, [], 240⟩, ⟨48, 52, [], 239⟩, ⟨53, 53, [], 248⟩, ⟨54, 57, [], 239⟩],
   [⟨46, 46, [], 240⟩, ⟨48, 53, [], 239⟩],
   [⟨46, 46, [], 236⟩, ⟨48, 57, [], 250⟩]],
  [[⟨46, 46, [], 236⟩, ⟨48, 57, [], 235⟩],
   [⟨46, 46, [], 236⟩, ⟨48, 52, [], 235⟩, ⟨53, 53, [], 252⟩, ⟨54, 57, [], 235⟩],
   [⟨46, 46, [], 236⟩, ⟨48, 53, [], 235⟩],
   [⟨48, 57, [], 254⟩, ⟨65, 70, [], 254⟩, ⟨97, 102, [], 254⟩],
   [⟨48, 57, [], 520⟩, ⟨65, 70, [], 520⟩, ⟨97, 102, [], 520⟩],
   [⟨33, 33, [], 255⟩, ⟨36, 36, [], 255⟩, ⟨37, 37, [], 256⟩, ⟨38, 46, [], 255⟩,
    ⟨48, 59, [], 255⟩, ⟨61, 61, [], 255⟩, ⟨64, 64, [.save_userinfo], 522⟩, ⟨65, 90, [], 255⟩,
    ⟨95, 95, [], 255⟩, ⟨97, 122, [], 255⟩, ⟨126, 126, [], 255⟩],
   [⟨48, 57, [], 257⟩, ⟨65, 70, [], 257⟩, ⟨97, 102, [], 257⟩],
   [⟨48, 57, [], 255⟩, ⟨65, 70, [], 255⟩, ⟨97, 102, [], 255⟩],
   [⟨48, 57, [], 259⟩, ⟨65, 70, [], 259⟩, ⟨97, 102, [], 259⟩],
   [⟨48, 57, [], 523⟩, ⟨65, 70, [], 523⟩, ⟨97, 102, [], 523⟩]],
  [[⟨48, 57, [], 261⟩, ⟨58, 58, [], 368⟩, ⟨65, 70, [], 261⟩, ⟨97, 102, [], 261⟩,
    ⟨118, 118, [], 447⟩],
   [⟨48, 57, [], 262⟩, ⟨58, 58, [], 265⟩, ⟨65, 70, [], 262⟩, ⟨97, 102, [], 262⟩],
   [⟨48, 57, [], 263⟩, ⟨58, 58, [], 265⟩, ⟨65, 70, [], 263⟩, ⟨97, 102, [], 263⟩],
   [⟨48, 57, [], 264⟩, ⟨58, 58, [], 265⟩, ⟨65, 70, [], 264⟩, ⟨97, 102, [], 264⟩],
   [⟨58, 58, [], 265⟩],
   [⟨48, 57, [], 266⟩, ⟨58, 58, [], 363⟩, ⟨65, 70, [], 266⟩, ⟨97, 102, [], 266⟩],
   [⟨48, 57, [], 267⟩, ⟨58, 58, [], 270⟩, ⟨65, 70, [], 267⟩, ⟨97, 102, [], 267⟩],
   [⟨48, 57, [], 268⟩, ⟨58, 58, [], 270⟩, ⟨65, 70, [], 268⟩, ⟨97, 102, [], 268⟩],
   [⟨48, 57, [], 269⟩, ⟨58, 58, [], 270⟩, ⟨65, 70, [], 269⟩, ⟨97, 102, [], 269⟩],
   [⟨58, 58, [], 270⟩]],
  [[⟨48, 57, [], 271⟩, ⟨58, 58, [], 358⟩, ⟨65, 70, [], 271⟩, ⟨97, 102, [], 271⟩],
   [⟨48, 57, [], 272⟩, ⟨58, 58, [], 275⟩, ⟨65, 70, [], 272⟩, ⟨97, 102, [], 272⟩],
   [⟨48, 57, [], 273⟩, ⟨58, 58, [], 275⟩, ⟨65, 70, [], 273⟩, ⟨97, 102, [], 273⟩],
   [⟨48, 57, [], 274⟩, ⟨58, 58, [], 275⟩, ⟨65, 70, [], 274⟩, ⟨97, 102, [], 274⟩],
   [⟨58, 58, [], 275⟩],
   [⟨48, 57, [], 276⟩, ⟨58, 58, [], 353⟩, ⟨65, 70, [], 276⟩, ⟨97, 102, [], 276⟩],
   [⟨48, 57, [], 277⟩, ⟨58, 58, [], 280⟩, ⟨65, 70, [], 277⟩, ⟨97, 102, [], 277⟩],
   [⟨48, 57, [], 278⟩, ⟨58, 58, [], 280⟩, ⟨65, 70, [], 278⟩, ⟨97, 102, [], 278⟩],
   [⟨48, 57, [], 279⟩, ⟨58, 58, [], 280⟩, ⟨65, 70, [], 279⟩, ⟨97, 102, [], 279⟩],
   [⟨58, 58, [], 280⟩]],
  [[⟨48, 57, [], 281⟩, ⟨58, 58, [], 348⟩, ⟨65, 70, [], 281⟩, ⟨97, 102, [], 281⟩],
   [⟨48, 57, [], 282⟩, ⟨58, 58, [], 285⟩, ⟨65, 70, [], 282⟩, ⟨97, 102, [], 282⟩],
   [⟨48, 57, [], 283⟩, ⟨58, 58, [], 285⟩, ⟨65, 70, [], 283⟩, ⟨97, 102, [], 283⟩],
   [⟨48, 57, [], 284⟩, ⟨58, 58, [], 285⟩, ⟨65, 70, [], 284⟩, ⟨97, 102, [], 284⟩],
   [⟨58, 58, [], 285⟩],
   [⟨48, 57, [], 286⟩, ⟨58, 58, [], 335⟩, ⟨65, 70, [], 286⟩, ⟨97, 102, [], 286⟩],
   [⟨48, 57, [], 287⟩, ⟨58, 58, [], 290⟩, ⟨65, 70, [], 287⟩, ⟨97, 102, [], 287⟩],
   [⟨48, 57, [], 288⟩, ⟨58, 58, [], 290⟩, ⟨65, 70, [], 288⟩, ⟨97, 102, [], 288⟩],
   [⟨48, 57, [], 289⟩, ⟨58, 58, [], 290⟩, ⟨65, 70, [], 289⟩, ⟨97, 102, [], 289⟩],
   [⟨58, 58, [], 290⟩]],
  [[⟨2, 2, [], 291⟩, ⟨48, 48, [], 318⟩, ⟨49, 49, [], 326⟩, ⟨50, 50, [], 329⟩, ⟨51, 57, [], 332⟩,
    ⟨58, 58, [], 333⟩, ⟨65, 70, [], 334⟩, ⟨97, 102, [], 334⟩],
   [⟨48, 52, [], 292⟩],
   [⟨48, 57, [], 293⟩],
   [⟨46, 46, [], 294⟩],
   [⟨2, 2, [], 295⟩, ⟨48, 48, [], 297⟩, ⟨49, 49, [], 314⟩, ⟨50, 50, [], 316⟩, ⟨51, 57, [], 315⟩],
   [⟨48, 52, [], 296⟩],
   [⟨48, 57, [], 297⟩],
   [⟨46, 46, [], 298⟩],
   [⟨2, 2, [], 299⟩, ⟨48, 48, [], 301⟩, ⟨49, 49, [], 310⟩, ⟨50, 50, [], 312⟩, ⟨51, 57, [], 311⟩],
   [⟨48, 52, [], 300⟩]]]

/-- The states 300 to 399, ten by ten. -/
def states300 : List (List (List (Edge Action))) := [
  [[⟨48, 57, [], 301⟩],
   [⟨46, 46, [], 302⟩],
   [⟨2, 2, [], 303⟩, ⟨48, 48, [], 305⟩, ⟨49, 49, [], 306⟩, ⟨50, 50, [], 308⟩, ⟨51, 57, [], 307⟩],
   [⟨48, 52, [], 304⟩],
   [⟨48, 57, [], 305⟩],
   [⟨93, 93, [], 512⟩],
   [⟨48, 57, [], 307⟩, ⟨93, 93, [], 512⟩],
   [⟨48, 57, [], 305⟩, ⟨93, 93, [], 512⟩],
   [⟨48, 52, [], 305⟩, ⟨53, 53, [], 309⟩, ⟨54, 57, [], 305⟩, ⟨93, 93, [], 512⟩],
   [⟨48, 53, [], 305⟩, ⟨93, 93, [], 512⟩]],
  [[⟨46, 46, [], 302⟩, ⟨48, 57, [], 311⟩],
   [⟨46, 46, [], 302⟩, ⟨48, 57, [], 301⟩],
   [⟨46, 46, [], 302⟩, ⟨48, 52, [], 301⟩, ⟨53, 53, [], 313⟩, ⟨54, 57, [], 301⟩],
   [⟨46, 46, [], 302⟩, ⟨48, 53, [], 301⟩],
   [⟨46, 46, [], 298⟩, ⟨48, 57, [], 315⟩],
   [⟨46, 46, [], 298⟩, ⟨48, 57, [], 297⟩],
   [⟨46, 46, [], 298⟩, ⟨48, 52, [], 297⟩, ⟨53, 53, [], 317⟩, ⟨54, 57, [], 297⟩],
   [⟨46, 46, [], 298⟩, ⟨48, 53, [], 297⟩],
   [⟨46, 46, [], 294⟩, ⟨48, 57, [], 319⟩, ⟨58, 58, [], 322⟩, ⟨65, 70, [], 319⟩,
    ⟨97, 102, [], 319⟩],
   [⟨48, 57, [], 320⟩, ⟨58, 58, [], 322⟩, ⟨65, 70, [], 320⟩, ⟨97, 102, [], 320⟩]],
  [[⟨48, 57, [], 321⟩, ⟨58, 58, [], 322⟩, ⟨65, 70, [], 321⟩, ⟨97, 102, [], 321⟩],
   [⟨58, 58, [], 322⟩],
   [⟨48, 57, [], 323⟩, ⟨58, 58, [], 305⟩, ⟨65, 70, [], 323⟩, ⟨97, 102, [], 323⟩],
   [⟨48, 57, [], 324⟩, ⟨65, 70, [], 324⟩, ⟨93, 93, [], 512⟩, ⟨97, 102, [], 324⟩],
   [⟨48, 57, [], 325⟩, ⟨65, 70, [], 325⟩, ⟨93, 93, [], 512⟩, ⟨97, 102, [], 325⟩],
   [⟨48, 57, [], 305⟩, ⟨65, 70, [], 305⟩, ⟨93, 93, [], 512⟩, ⟨97, 102, [], 305⟩],
   [⟨46, 46, [], 294⟩, ⟨48, 57, [], 327⟩, ⟨58, 58, [], 322⟩, ⟨65, 70, [], 319⟩,
    ⟨97, 102, [], 319⟩],
   [⟨46, 46, [], 294⟩, ⟨48, 57, [], 328⟩, ⟨58, 58, [], 322⟩, ⟨65, 70, [], 320⟩,
    ⟨97, 102, [], 320⟩],
   [⟨46, 46, [], 294⟩, ⟨48, 57, [], 321⟩, ⟨58, 58, [], 322⟩, ⟨65, 70, [], 321⟩,
    ⟨97, 102, [], 321⟩],
   [⟨46, 46, [], 294⟩, ⟨48, 52, [], 330⟩, ⟨53, 53, [], 331⟩, ⟨54, 57, [], 330⟩,
    ⟨58, 58, [], 322⟩, ⟨65, 70, [], 319⟩, ⟨97, 102, [], 319⟩]],
  [[⟨46, 46, [], 294⟩, ⟨48, 57, [], 320⟩, ⟨58, 58, [], 322⟩, ⟨65, 70, [], 320⟩,
    ⟨97, 102, [], 320⟩],
   [⟨46, 46, [], 294⟩, ⟨48, 53, [], 328⟩, ⟨54, 57, [], 320⟩, ⟨58, 58, [], 322⟩,
    ⟨65, 70, [], 320⟩, ⟨97, 102, [], 320⟩],
   [⟨46, 46, [], 294⟩, ⟨48, 57, [], 330⟩, ⟨58, 58, [], 322⟩, ⟨65, 70, [], 319⟩,
    ⟨97, 102, [], 319⟩],
   [⟨48, 57, [], 323⟩, ⟨65, 70, [], 323⟩, ⟨97, 102, [], 323⟩],
   [⟨48, 57, [], 319⟩, ⟨58, 58, [], 322⟩, ⟨65, 70, [], 319⟩, ⟨97, 102, [], 319⟩],
   [⟨2, 2, [], 291⟩, ⟨48, 48, [], 336⟩, ⟨49, 49, [], 340⟩, ⟨50, 50, [], 343⟩, ⟨51, 57, [], 346⟩,
    ⟨65, 70, [], 347⟩, ⟨97, 102, [], 347⟩],
   [⟨46, 46, [], 294⟩, ⟨48, 57, [], 337⟩, ⟨58, 58, [], 333⟩, ⟨65, 70, [], 337⟩,
    ⟨97, 102, [], 337⟩],
   [⟨48, 57, [], 338⟩, ⟨58, 58, [], 333⟩, ⟨65, 70, [], 338⟩, ⟨97, 102, [], 338⟩],
   [⟨48, 57, [], 339⟩, ⟨58, 58, [], 333⟩, ⟨65, 70, [], 339⟩, ⟨97, 102, [], 339⟩],
   [⟨58, 58, [], 333⟩]],
  [[⟨46, 46, [], 294⟩, ⟨48, 57, [], 341⟩, ⟨58, 58, [], 333⟩, ⟨65, 70, [], 337⟩,
    ⟨97, 102, [], 337⟩],
   [⟨46, 46, [], 294⟩, ⟨48, 57, [], 342⟩, ⟨58, 58, [], 333⟩, ⟨65, 70, [], 338⟩,
    ⟨97, 102, [], 338⟩],
   [⟨46, 46, [], 294⟩, ⟨48, 57, [], 339⟩, ⟨58, 58, [], 333⟩, ⟨65, 70, [], 339⟩,
    ⟨97, 102, [], 339⟩],
   [⟨46, 46, [], 294⟩, ⟨48, 52, [], 344⟩, ⟨53, 53, [], 345⟩, ⟨54, 57, [], 344⟩,
    ⟨58, 58, [], 333⟩, ⟨65, 70, [], 337⟩, ⟨97, 102, [], 337⟩],
   [⟨46, 46, [], 294⟩, ⟨48, 57, [], 338⟩, ⟨58, 58, [], 333⟩, ⟨65, 70, [], 338⟩,
    ⟨97, 102, [], 338⟩],
   [⟨46, 46, [], 294⟩, ⟨48, 53, [], 342⟩, ⟨54, 57, [], 338⟩, ⟨58, 58, [], 333⟩,
    ⟨65, 70, [], 338⟩, ⟨97, 102, [], 338⟩],
   [⟨46, 46, [], 294⟩, ⟨48, 57, [], 344⟩, ⟨58, 58, [], 333⟩, ⟨65, 70, [], 337⟩,
    ⟨97, 102, [], 337⟩],
   [⟨48, 57, [], 337⟩, ⟨58, 58, [], 333⟩, ⟨65, 70, [], 337⟩, ⟨97, 102, [], 337⟩],
   [⟨48, 57, [], 349⟩, ⟨65, 70, [], 349⟩, ⟨97, 102, [], 349⟩],
   [⟨48, 57, [], 350⟩, ⟨58, 58, [], 335⟩, ⟨65, 70, [], 350⟩, ⟨97, 102, [], 350⟩]],
  [[⟨48, 57, [], 351⟩, ⟨58, 58, [], 335⟩, ⟨65, 70, [], 351⟩, ⟨97, 102, [], 351⟩],
   [⟨48, 57, [], 352⟩, ⟨58, 58, [], 335⟩, ⟨65, 70, [], 352⟩, ⟨97, 102, [], 352⟩],
   [⟨58, 58, [], 335⟩],
   [⟨48, 57, [], 354⟩, ⟨65, 70, [], 354⟩, ⟨97, 102, [], 354⟩],
   [⟨48, 57, [], 355⟩, ⟨58, 58, [], 348⟩, ⟨65, 70, [], 355⟩, ⟨97, 102, [], 355⟩],
   [⟨48, 57, [], 356⟩, ⟨58, 58, [], 348⟩, ⟨65, 70, [], 356⟩, ⟨97, 102, [], 356⟩],
   [⟨48, 57, [], 357⟩, ⟨58, 58, [], 348⟩, ⟨65, 70, [], 357⟩, ⟨97, 102, [], 357⟩],
   [⟨58, 58, [], 348⟩],
   [⟨48, 57, [], 359⟩, ⟨65, 70, [], 359⟩, ⟨97, 102, [], 359⟩],
   [⟨48, 57, [], 360⟩, ⟨58, 58, [], 353⟩, ⟨65, 70, [], 360⟩, ⟨97, 102, [], 360⟩]],
  [[⟨48, 57, [], 361⟩, ⟨58, 58, [], 353⟩, ⟨65, 70, [], 361⟩, ⟨97, 102, [], 361⟩],
   [⟨48, 57, [], 362⟩, ⟨58, 58, [], 353⟩, ⟨65, 70, [], 362⟩, ⟨97, 102, [], 362⟩],
   [⟨58, 58, [], 353⟩],
   [⟨48, 57, [], 364⟩, ⟨65, 70, [], 364⟩, ⟨97, 102, [], 364⟩],
   [⟨48, 57, [], 365⟩, ⟨58, 58, [], 358⟩, ⟨65, 70, [], 365⟩, ⟨97, 102, [], 365⟩],
   [⟨48, 57, [], 366⟩, ⟨58, 58, [], 358⟩, ⟨65, 70, [], 366⟩, ⟨97, 102, [], 366⟩],
   [⟨48, 57, [], 367⟩, ⟨58, 58, [], 358⟩, ⟨65, 70, [], 367⟩, ⟨97, 102, [], 367⟩],
   [⟨58, 58, [], 358⟩],
   [⟨58, 58, [], 369⟩],
   [⟨2, 2, [], 291⟩, ⟨48, 48, [], 370⟩, ⟨49, 49, [], 439⟩, ⟨50, 50, [], 442⟩, ⟨51, 57, [], 445⟩,
    ⟨65, 70, [], 446⟩, ⟨93, 93, [], 512⟩, ⟨97, 102, [], 446⟩]],
  [[⟨46, 46, [], 294⟩, ⟨48, 57, [], 371⟩, ⟨58, 58, [], 374⟩, ⟨65, 70, [], 371⟩,
    ⟨93, 93, [], 512⟩, ⟨97, 102, [], 371⟩],
   [⟨48, 57, [], 372⟩, ⟨58, 58, [], 374⟩, ⟨65, 70, [], 372⟩, ⟨93, 93, [], 512⟩,
    ⟨97, 102, [], 372⟩],
   [⟨48, 57, [], 373⟩, ⟨58, 58, [], 374⟩, ⟨65, 70, [], 373⟩, ⟨93, 93, [], 512⟩,
    ⟨97, 102, [], 373⟩],
   [⟨58, 58, [], 374⟩, ⟨93, 93, [], 512⟩],
   [⟨2, 2, [], 291⟩, ⟨48, 48, [], 375⟩, ⟨49, 49, [], 431⟩, ⟨50, 50, [], 434⟩, ⟨51, 57, [], 437⟩,
    ⟨65, 70, [], 438⟩, ⟨97, 102, [], 438⟩],
   [⟨46, 46, [], 294⟩, ⟨48, 57, [], 376⟩, ⟨58, 58, [], 379⟩, ⟨65, 70, [], 376⟩,
    ⟨93, 93, [], 512⟩, ⟨97, 102, [], 376⟩],
   [⟨48, 57, [], 377⟩, ⟨58, 58, [], 379⟩, ⟨65, 70, [], 377⟩, ⟨93, 93, [], 512⟩,
    ⟨97, 102, [], 377⟩],
   [⟨48, 57, [], 378⟩, ⟨58, 58, [], 379⟩, ⟨65, 70, [], 378⟩, ⟨93, 93, [], 512⟩,
    ⟨97, 102, [], 378⟩],
   [⟨58, 58, [], 379⟩, ⟨93, 93, [], 512⟩],
   [⟨2, 2, [], 291⟩, ⟨48, 48, [], 380⟩, ⟨49, 49, [], 423⟩, ⟨50, 50, [], 426⟩, ⟨51, 57, [], 429⟩,
    ⟨65, 70, [], 430⟩, ⟨97, 102, [], 430⟩]],
  [[⟨46, 46, [], 294⟩, ⟨48, 57, [], 381⟩, ⟨58, 58, [], 384⟩, ⟨65, 70, [], 381⟩,
    ⟨93, 93, [], 512⟩, ⟨97, 102, [], 381⟩],
   [⟨48, 57, [], 382⟩, ⟨58, 58, [], 384⟩, ⟨65, 70, [], 382⟩, ⟨93, 93, [], 512⟩,
    ⟨97, 102, [], 382⟩],
   [⟨48, 57, [], 383⟩, ⟨58, 58, [], 384⟩, ⟨65, 70, [], 383⟩, ⟨93, 93, [], 512⟩,
    ⟨97, 102, [], 383⟩],
   [⟨58, 58, [], 384⟩, ⟨93, 93, [], 512⟩],
   [⟨2, 2, [], 291⟩, ⟨48, 48, [], 385⟩, ⟨49, 49, [], 415⟩, ⟨50, 50, [], 418⟩, ⟨51, 57, [], 421⟩,
    ⟨65, 70, [], 422⟩, ⟨97, 102, [], 422⟩],
   [⟨46, 46, [], 294⟩, ⟨48, 57, [], 386⟩, ⟨58, 58, [], 389⟩, ⟨65, 70, [], 386⟩,
    ⟨93, 93, [], 512⟩, ⟨97, 102, [], 386⟩],
   [⟨48, 57, [], 387⟩, ⟨58, 58, [], 389⟩, ⟨65, 70, [], 387⟩, ⟨93, 93, [], 512⟩,
    ⟨97, 102, [], 387⟩],
   [⟨48, 57, [], 388⟩, ⟨58, 58, [], 389⟩, ⟨65, 70, [], 388⟩, ⟨93, 93, [], 512⟩,
    ⟨97, 102, [], 388⟩],
   [⟨58, 58, [], 389⟩, ⟨93, 93, [], 512⟩],
   [⟨2, 2, [], 291⟩, ⟨48, 48, [], 390⟩, ⟨49, 49, [], 407⟩, ⟨50, 50, [], 410⟩, ⟨51, 57, [], 413⟩,
    ⟨65, 70, [], 414⟩, ⟨97, 102, [], 414⟩]],
  [[⟨46, 46, [], 294⟩, ⟨48, 57, [], 391⟩, ⟨58, 58, [], 394⟩, ⟨65, 70, [], 391⟩,
    ⟨93, 93, [], 512⟩, ⟨97, 102, [], 391⟩],
   [⟨48, 57, [], 392⟩, ⟨58, 58, [], 394⟩, ⟨65, 70, [], 392⟩, ⟨93, 93, [], 512⟩,
    ⟨97, 102, [], 392⟩],
   [⟨48, 57, [], 393⟩, ⟨58, 58, [], 394⟩, ⟨65, 70, [], 393⟩, ⟨93, 93, [], 512⟩,
    ⟨97, 102, [], 393⟩],
   [⟨58, 58, [], 394⟩, ⟨93, 93, [], 512⟩],
   [⟨2, 2, [], 291⟩, ⟨48, 48, [], 395⟩, ⟨49, 49, [], 399⟩, ⟨50, 50, [], 402⟩, ⟨51, 57, [], 405⟩,
    ⟨65, 70, [], 406⟩, ⟨97, 102, [], 406⟩],
   [⟨46, 46, [], 294⟩, ⟨48, 57, [], 396⟩, ⟨58, 58, [], 333⟩, ⟨65, 70, [], 396⟩,
    ⟨93, 93, [], 512⟩, ⟨97, 102, [], 396⟩],
   [⟨48, 57, [], 397⟩, ⟨58, 58, [], 333⟩, ⟨65, 70, [], 397⟩, ⟨93, 93, [], 512⟩,
    ⟨97, 102, [], 397⟩],
   [⟨48, 57, [], 398⟩, ⟨58, 58, [], 333⟩, ⟨65, 70, [], 398⟩, ⟨93, 93, [], 512⟩,
    ⟨97, 102, [], 398⟩],
   [⟨58, 58, [], 333⟩, ⟨93, 93, [], 512⟩],
   [⟨46, 46, [], 294⟩, ⟨48, 57, [], 400⟩, ⟨58, 58, [], 333⟩, ⟨65, 70, [], 396⟩,
    ⟨93, 93, [], 512⟩, ⟨97, 102, [], 396⟩]]]

/-- The states 400 to 499, ten by ten. -/
def states400 : List (List (List (Edge Action))) := [
  [[⟨46, 46, [], 294⟩, ⟨48, 57, [], 401⟩, ⟨58, 58, [], 333⟩, ⟨65, 70, [], 397⟩,
    ⟨93, 93, [], 512⟩, ⟨97, 102, [], 397⟩],
   [⟨46, 46, [], 294⟩, ⟨48, 57, [], 398⟩, ⟨58, 58, [], 333⟩, ⟨65, 70, [], 398⟩,
    ⟨93, 93, [], 512⟩, ⟨97, 102, [], 398⟩],
   [⟨46, 46, [], 294⟩, ⟨48, 52, [], 403⟩, ⟨53, 53, [], 404⟩, ⟨54, 57, [], 403⟩,
    ⟨58, 58, [], 333⟩, ⟨65, 70, [], 396⟩, ⟨93, 93, [], 512⟩, ⟨97, 102, [], 396⟩],
   [⟨46, 46, [], 294⟩, ⟨48, 57, [], 397⟩, ⟨58, 58, [], 333⟩, ⟨65, 70, [], 397⟩,
    ⟨93, 93, [], 512⟩, ⟨97, 102, [], 397⟩],
   [⟨46, 46, [], 294⟩, ⟨48, 53, [], 401⟩, ⟨54, 57, [], 397⟩, ⟨58, 58, [], 333⟩,
    ⟨65, 70, [], 397⟩, ⟨93, 93, [], 512⟩, ⟨97, 102, [], 397⟩],
   [⟨46, 46, [], 294⟩, ⟨48, 57, [], 403⟩, ⟨58, 58, [], 333⟩, ⟨65, 70, [], 396⟩,
    ⟨93, 93, [], 512⟩, ⟨97, 102, [], 396⟩],
   [⟨48, 57, [], 396⟩, ⟨58, 58, [], 333⟩, ⟨65, 70, [], 396⟩, ⟨93, 93, [], 512⟩,
    ⟨97, 102, [], 396⟩],
   [⟨46, 46, [], 294⟩, ⟨48, 57, [], 408⟩, ⟨58, 58, [], 394⟩, ⟨65, 70, [], 391⟩,
    ⟨93, 93, [], 512⟩, ⟨97, 102, [], 391⟩],
   [⟨46, 46, [], 294⟩, ⟨48, 57, [], 409⟩, ⟨58, 58, [], 394⟩, ⟨65, 70, [], 392⟩,
    ⟨93, 93, [], 512⟩, ⟨97, 102, [], 392⟩],
   [⟨46, 46, [], 294⟩, ⟨48, 57, [], 393⟩, ⟨58, 58, [], 394⟩, ⟨65, 70, [], 393⟩,
    ⟨93, 93, [], 512⟩, ⟨97, 102, [], 393⟩]],
  [[⟨46, 46, [], 294⟩, ⟨48, 52, [], 411⟩, ⟨53, 53, [], 412⟩, ⟨54, 57, [], 411⟩,
    ⟨58, 58, [], 394⟩, ⟨65, 70, [], 391⟩, ⟨93, 93, [], 512⟩, ⟨97, 102, [], 391⟩],
   [⟨46, 46, [], 294⟩, ⟨48, 57, [], 392⟩, ⟨58, 58, [], 394⟩, ⟨65, 70, [], 392⟩,
    ⟨93, 93, [], 512⟩, ⟨97, 102, [], 392⟩],
   [⟨46, 46, [], 294⟩, ⟨48, 53, [], 409⟩, ⟨54, 57, [], 392⟩, ⟨58, 58, [], 394⟩,
    ⟨65, 70, [], 392⟩, ⟨93, 93, [], 512⟩, ⟨97, 102, [], 392⟩],
   [⟨46, 46, [], 294⟩, ⟨48, 57, [], 411⟩, ⟨58, 58, [], 394⟩, ⟨65, 70, [], 391⟩,
    ⟨93, 93, [], 512⟩, ⟨97, 102, [], 391⟩],
   [⟨48, 57, [], 391⟩, ⟨58, 58, [], 394⟩, ⟨65, 70, [], 391⟩, ⟨93, 93, [], 512⟩,
    ⟨97, 102, [], 391⟩],
   [⟨46, 46, [], 294⟩, ⟨48, 57, [], 416⟩, ⟨58, 58, [], 389⟩, ⟨65, 70, [], 386⟩,
    ⟨93, 93, [], 512⟩, ⟨97, 102, [], 386⟩],
   [⟨46, 46, [], 294⟩, ⟨48, 57, [], 417⟩, ⟨58, 58, [], 389⟩, ⟨65, 70, [], 387⟩,
    ⟨93, 93, [], 512⟩, ⟨97, 102, [], 387⟩],
   [⟨46, 46, [], 294⟩, ⟨48, 57, [], 388⟩, ⟨58, 58, [], 389⟩, ⟨65, 70, [], 388⟩,
    ⟨93, 93, [], 512⟩, ⟨97, 102, [], 388⟩],
   [⟨46, 46, [], 294⟩, ⟨48, 52, [], 419⟩, ⟨53, 53, [], 420⟩, ⟨54, 57, [], 419⟩,
    ⟨58, 58, [], 389⟩, ⟨65, 70, [], 386⟩, ⟨93, 93, [], 512⟩, ⟨97, 102, [], 386⟩],
   [⟨46, 46, [], 294⟩, ⟨48, 57, [], 387⟩, ⟨58, 58, [], 389⟩, ⟨65, 70, [], 387⟩,
    ⟨93, 93, [], 512⟩, ⟨97, 102, [], 387⟩]],
  [[⟨46, 46, [], 294⟩, ⟨48, 53, [], 417⟩, ⟨54, 57, [], 387⟩, ⟨58, 58, [], 389⟩,
    ⟨65, 70, [], 387⟩, ⟨93, 93, [], 512⟩, ⟨97, 102, [], 387⟩],
   [⟨46, 46, [], 294⟩, ⟨48, 57, [], 419⟩, ⟨58, 58, [], 389⟩, ⟨65, 70, [], 386⟩,
    ⟨93, 93, [], 512⟩, ⟨97, 102, [], 386⟩],
   [⟨48, 57, [], 386⟩, ⟨58, 58, [], 389⟩, ⟨65, 70, [], 386⟩, ⟨93, 93, [], 512⟩,
    ⟨97, 102, [], 386⟩],
   [⟨46, 46, [], 294⟩, ⟨48, 57, [], 424⟩, ⟨58, 58, [], 384⟩, ⟨65, 70, [], 381⟩,
    ⟨93, 93, [], 512⟩, ⟨97, 102, [], 381⟩],
   [⟨46, 46, [], 294⟩, ⟨48, 57, [], 425⟩, ⟨58, 58, [], 384⟩, ⟨65, 70, [], 382⟩,
    ⟨93, 93, [], 512⟩, ⟨97, 102, [], 382⟩],
   [⟨46, 46, [], 294⟩, ⟨48, 57, [], 383⟩, ⟨58, 58, [], 384⟩, ⟨65, 70, [], 383⟩,
    ⟨93, 93, [], 512⟩, ⟨97, 102, [], 383⟩],
   [⟨46, 46, [], 294⟩, ⟨48, 52, [], 427⟩, ⟨53, 53, [], 428⟩, ⟨54, 57, [], 427⟩,
    ⟨58, 58, [], 384⟩, ⟨65, 70, [], 381⟩, ⟨93, 93, [], 512⟩, ⟨97, 102, [], 381⟩],
   [⟨46, 46, [], 294⟩, ⟨48, 57, [], 382⟩, ⟨58, 58, [], 384⟩, ⟨65, 70, [], 382⟩,
    ⟨93, 93, [], 512⟩, ⟨97, 102, [], 382⟩],
   [⟨46, 46, [], 294⟩, ⟨48, 53, [], 425⟩, ⟨54, 57, [], 382⟩, ⟨58, 58, [], 384⟩,
    ⟨65, 70, [], 382⟩, ⟨93, 93, [], 512⟩, ⟨97, 102, [], 382⟩],
   [⟨46, 46, [], 294⟩, ⟨48, 57, [], 427⟩, ⟨58, 58, [], 384⟩, ⟨65, 70, [], 381⟩,
    ⟨93, 93, [], 512⟩, ⟨97, 102, [], 381⟩]],
  [[⟨48, 57, [], 381⟩, ⟨58, 58, [], 384⟩, ⟨65, 70, [], 381⟩, ⟨93, 93, [], 512⟩,
    ⟨97, 102, [], 381⟩],
   [⟨46, 46, [], 294⟩, ⟨48, 57, [], 432⟩, ⟨58, 58, [], 379⟩, ⟨65, 70, [], 376⟩,
    ⟨93, 93, [], 512⟩, ⟨97, 102, [], 376⟩],
   [⟨46, 46, [], 294⟩, ⟨48, 57, [], 433⟩, ⟨58, 58, [], 379⟩, ⟨65, 70, [], 377⟩,
    ⟨93, 93, [], 512⟩, ⟨97, 102, [], 377⟩],
   [⟨46, 46, [], 294⟩, ⟨48, 57, [], 378⟩, ⟨58, 58, [], 379⟩, ⟨65, 70, [], 378⟩,
    ⟨93, 93, [], 512⟩, ⟨97, 102, [], 378⟩],
   [⟨46, 46, [], 294⟩, ⟨48, 52, [], 435⟩, ⟨53, 53, [], 436⟩, ⟨54, 57, [], 435⟩,
    ⟨58, 58, [], 379⟩, ⟨65, 70, [], 376⟩, ⟨93, 93, [], 512⟩, ⟨97, 102, [], 376⟩],
   [⟨46, 46, [], 294⟩, ⟨48, 57, [], 377⟩, ⟨58, 58, [], 379⟩, ⟨65, 70, [], 377⟩,
    ⟨93, 93, [], 512⟩, ⟨97, 102, [], 377⟩],
   [⟨46, 46, [], 294⟩, ⟨48, 53, [], 433⟩, ⟨54, 57, [], 377⟩, ⟨58, 58, [], 379⟩,
    ⟨65, 70, [], 377⟩, ⟨93, 93, [], 512⟩, ⟨97, 102, [], 377⟩],
   [⟨46, 46, [], 294⟩, ⟨48, 57, [], 435⟩, ⟨58, 58, [], 379⟩, ⟨65, 70, [], 376⟩,
    ⟨93, 93, [], 512⟩, ⟨97, 102, [], 376⟩],
   [⟨48, 57, [], 376⟩, ⟨58, 58, [], 379⟩, ⟨65, 70, [], 376⟩, ⟨93, 93, [], 512⟩,
    ⟨97, 102, [], 376⟩],
   [⟨46, 46, [], 294⟩, ⟨48, 57, [], 440⟩, ⟨58, 58, [], 374⟩, ⟨65, 70, [], 371⟩,
    ⟨93, 93, [], 512⟩, ⟨97, 102, [], 371⟩]],
  [[⟨46, 46, [], 294⟩, ⟨48, 57, [], 441⟩, ⟨58, 58, [], 374⟩, ⟨65, 70, [], 372⟩,
    ⟨93, 93, [], 512⟩, ⟨97, 102, [], 372⟩],
   [⟨46, 46, [], 294⟩, ⟨48, 57, [], 373⟩, ⟨58, 58, [], 374⟩, ⟨65, 70, [], 373⟩,
    ⟨93, 93, [], 512⟩, ⟨97, 102, [], 373⟩],
   [⟨46, 46, [], 294⟩, ⟨48, 52, [], 443⟩, ⟨53, 53, [], 444⟩, ⟨54, 57, [], 443⟩,
    ⟨58, 58, [], 374⟩, ⟨65, 70, [], 371⟩, ⟨93, 93, [], 512⟩, ⟨97, 102, [], 371⟩],
   [⟨46, 46, [], 294⟩, ⟨48, 57, [], 372⟩, ⟨58, 58, [], 374⟩, ⟨65, 70, [], 372⟩,
    ⟨93, 93, [], 512⟩, ⟨97, 102, [], 372⟩],
   [⟨46, 46, [], 294⟩, ⟨48, 53, [], 441⟩, ⟨54, 57, [], 372⟩, ⟨58, 58, [], 374⟩,
    ⟨65, 70, [], 372⟩, ⟨93, 93, [], 512⟩, ⟨97, 102, [], 372⟩],
   [⟨46, 46, [], 294⟩, ⟨48, 57, [], 443⟩, ⟨58, 58, [], 374⟩, ⟨65, 70, [], 371⟩,
    ⟨93, 93, [], 512⟩, ⟨97, 102, [], 371⟩],
   [⟨48, 57, [], 371⟩, ⟨58, 58, [], 374⟩, ⟨65, 70, [], 371⟩, ⟨93, 93, [], 512⟩,
    ⟨97, 102, [], 371⟩],
   [⟨48, 57, [], 448⟩, ⟨65, 70, [], 448⟩, ⟨97, 102, [], 448⟩],
   [⟨46, 46, [], 449⟩, ⟨48, 57, [], 448⟩, ⟨65, 70, [], 448⟩, ⟨97, 102, [], 448⟩],
   [⟨33, 33, [], 450⟩, ⟨36, 36, [], 450⟩, ⟨38, 46, [], 450⟩, ⟨48, 59, [], 450⟩,
    ⟨61, 61, [], 450⟩, ⟨65, 90, [], 450⟩, ⟨95, 95, [], 450⟩, ⟨97, 122, [], 450⟩,
    ⟨126, 126, [], 450⟩]],
  [[⟨33, 33, [], 450⟩, ⟨36, 36, [], 450⟩, ⟨38, 46, [], 450⟩, ⟨48, 59, [], 450⟩,
    ⟨61, 61, [], 450⟩, ⟨65, 90, [], 450⟩, ⟨93, 93, [], 512⟩, ⟨95, 95, [], 450⟩,
    ⟨97, 122, [], 450⟩, ⟨126, 126, [], 450⟩],
   [⟨33, 33, [], 452⟩, ⟨35, 35, [], 453⟩, ⟨36, 36, [], 452⟩, ⟨37, 37, [], 3⟩, ⟨38, 46, [], 452⟩,
    ⟨47, 47, [], 458⟩, ⟨48, 57, [], 452⟩, ⟨59, 59, [], 452⟩, ⟨61, 61, [], 452⟩,
    ⟨63, 63, [], 456⟩, ⟨64, 64, [], 452⟩, ⟨65, 90, [.marku], 508⟩, ⟨95, 95, [], 452⟩,
    ⟨97, 122, [.marku], 508⟩, ⟨126, 126, [], 452⟩, ⟨128, 255, [], 452⟩],
   [⟨33, 33, [], 452⟩, ⟨35, 35, [], 453⟩, ⟨36, 36, [], 452⟩, ⟨37, 37, [], 3⟩, ⟨38, 46, [], 452⟩,
    ⟨47, 47, [], 455⟩, ⟨48, 57, [], 452⟩, ⟨59, 59, [], 452⟩, ⟨61, 61, [], 452⟩,
    ⟨63, 63, [], 456⟩, ⟨64, 90, [], 452⟩, ⟨95, 95, [], 452⟩, ⟨97, 122, [], 452⟩,
    ⟨126, 126, [], 452⟩, ⟨128, 255, [], 452⟩],
   [⟨33, 33, [.marku], 454⟩, ⟨36, 36, [.marku], 454⟩, ⟨37, 37, [.marku], 1⟩,
    ⟨38, 59, [.marku], 454⟩, ⟨61, 61, [.marku], 454⟩, ⟨63, 90, [.marku], 454⟩,
    ⟨95, 95, [.marku], 454⟩, ⟨97, 122, [.marku], 454⟩, ⟨126, 126, [.marku], 454⟩,
    ⟨128, 255, [.marku], 454⟩],
   [⟨33, 33, [], 454⟩, ⟨36, 36, [], 454⟩, ⟨37, 37, [], 1⟩, ⟨38, 59, [], 454⟩, ⟨61, 61, [], 454⟩,
    ⟨63, 90, [], 454⟩, ⟨95, 95, [], 454⟩, ⟨97, 122, [], 454⟩, ⟨126, 126, [], 454⟩,
    ⟨128, 255, [], 454⟩],
   [⟨33, 33, [], 455⟩, ⟨35, 35, [], 453⟩, ⟨36, 36, [], 455⟩, ⟨37, 37, [], 5⟩, ⟨38, 59, [], 455⟩,
    ⟨61, 61, [], 455⟩, ⟨63, 63, [], 456⟩, ⟨64, 90, [], 455⟩, ⟨95, 95, [], 455⟩,
    ⟨97, 122, [], 455⟩, ⟨126, 126, [], 455⟩, ⟨128, 255, [], 455⟩],
   [⟨33, 33, [.marku], 457⟩, ⟨35, 35, [.marku, .save_query], 453⟩, ⟨36, 36, [.marku], 457⟩,
    ⟨37, 37, [.marku], 7⟩, ⟨38, 59, [.marku], 457⟩, ⟨61, 61, [.marku], 457⟩,
    ⟨63, 90, [.marku], 457⟩, ⟨95, 95, [.marku], 457⟩, ⟨97, 122, [.marku], 457⟩,
    ⟨126, 126, [.marku], 457⟩, ⟨128, 255, [.marku], 457⟩],
   [⟨33, 33, [], 457⟩, ⟨35, 35, [.save_query], 453⟩, ⟨36, 36, [], 457⟩, ⟨37, 37, [], 7⟩,
    ⟨38, 59, [], 457⟩, ⟨61, 61, [], 457⟩, ⟨63, 90, [], 457⟩, ⟨95, 95, [], 457⟩,
    ⟨97, 122, [], 457⟩, ⟨126, 126, [], 457⟩, ⟨128, 255, [], 457⟩],
   [⟨33, 33, [], 455⟩, ⟨35, 35, [], 453⟩, ⟨36, 36, [], 455⟩, ⟨37, 37, [], 5⟩, ⟨38, 46, [], 455⟩,
    ⟨47, 47, [], 459⟩, ⟨48, 59, [], 455⟩, ⟨61, 61, [], 455⟩, ⟨63, 63, [], 456⟩,
    ⟨64, 90, [], 455⟩, ⟨95, 95, [], 455⟩, ⟨97, 122, [], 455⟩, ⟨126, 126, [], 455⟩,
    ⟨128, 255, [], 455⟩],
   [⟨2, 2, [.markh], 9⟩, ⟨33, 33, [.markh], 467⟩, ⟨35, 35, [.markh, .save_host], 453⟩,
    ⟨36, 36, [.markh], 467⟩, ⟨37, 37, [.markh], 31⟩, ⟨38, 46, [.markh], 467⟩,
    ⟨47, 47, [.markh, .save_host], 455⟩, ⟨48, 48, [.markh], 490⟩, ⟨49, 49, [.markh], 504⟩,
    ⟨50, 50, [.markh], 506⟩, ⟨51, 57, [.markh], 505⟩, ⟨58, 58, [.markh, .save_host], 468⟩,
    ⟨59, 59, [.markh], 467⟩, ⟨61, 61, [.markh], 467⟩, ⟨63, 63, [.markh, .save_host], 456⟩,
    ⟨64, 64, [.markh, .save_userinfo], 469⟩, ⟨65, 90, [.markh], 467⟩, ⟨91, 91, [.markh], 38⟩,
    ⟨95, 95, [.markh], 467⟩, ⟨97, 122, [.markh], 467⟩, ⟨126, 126, [.markh], 467⟩]],
  [[⟨35, 35, [.save_host], 453⟩, ⟨47, 47, [.save_host], 455⟩, ⟨58, 58, [.save_host], 461⟩,
    ⟨63, 63, [.save_host], 456⟩],
   [⟨35, 35, [.markh, .save_port], 453⟩, ⟨47, 47, [.markh, .save_port], 455⟩,
    ⟨48, 57, [.markh], 462⟩, ⟨63, 63, [.markh, .save_port], 456⟩],
   [⟨35, 35, [.save_port], 453⟩, ⟨47, 47, [.save_port], 455⟩, ⟨48, 57, [], 462⟩,
    ⟨63, 63, [.save_port], 456⟩],
   [⟨35, 35, [.save_host], 453⟩, ⟨47, 47, [.save_host], 455⟩, ⟨48, 57, [], 464⟩,
    ⟨58, 58, [.save_host], 461⟩, ⟨63, 63, [.save_host], 456⟩],
   [⟨35, 35, [.save_host], 453⟩, ⟨47, 47, [.save_host], 455⟩, ⟨48, 57, [], 460⟩,
    ⟨58, 58, [.save_host], 461⟩, ⟨63, 63, [.save_host], 456⟩],
   [⟨35, 35, [.save_host], 453⟩, ⟨47, 47, [.save_host], 455⟩, ⟨48, 52, [], 460⟩,
    ⟨53, 53, [], 466⟩, ⟨54, 57, [], 460⟩, ⟨58, 58, [.save_host], 461⟩,
    ⟨63, 63, [.save_host], 456⟩],
   [⟨35, 35, [.save_host], 453⟩, ⟨47, 47, [.save_host], 455⟩, ⟨48, 53, [], 460⟩,
    ⟨58, 58, [.save_host], 461⟩, ⟨63, 63, [.save_host], 456⟩],
   [⟨33, 33, [], 467⟩, ⟨35, 35, [.save_host], 453⟩, ⟨36, 36, [], 467⟩, ⟨37, 37, [], 31⟩,
    ⟨38, 46, [], 467⟩, ⟨47, 47, [.save_host], 455⟩, ⟨48, 57, [], 467⟩,
    ⟨58, 58, [.save_host], 468⟩, ⟨59, 59, [], 467⟩, ⟨61, 61, [], 467⟩,
    ⟨63, 63, [.save_host], 456⟩, ⟨64, 64, [.save_userinfo], 469⟩, ⟨65, 90, [], 467⟩,
    ⟨95, 95, [], 467⟩, ⟨97, 122, [], 467⟩, ⟨126, 126, [], 467⟩],
   [⟨33, 33, [], 33⟩, ⟨35, 35, [.markh, .save_port], 453⟩, ⟨36, 36, [], 33⟩, ⟨37, 37, [], 34⟩,
    ⟨38, 46, [], 33⟩, ⟨47, 47, [.markh, .save_port], 455⟩, ⟨48, 57, [.markh], 489⟩,
    ⟨58, 59, [], 33⟩, ⟨61, 61, [], 33⟩, ⟨63, 63, [.markh, .save_port], 456⟩,
    ⟨64, 64, [.save_userinfo], 469⟩, ⟨65, 90, [], 33⟩, ⟨95, 95, [], 33⟩, ⟨97, 122, [], 33⟩,
    ⟨126, 126, [], 33⟩],
   [⟨2, 2, [.markh], 9⟩, ⟨33, 33, [.markh], 470⟩, ⟨35, 35, [.markh, .save_host], 453⟩,
    ⟨36, 36, [.markh], 470⟩, ⟨37, 37, [.markh], 36⟩, ⟨38, 46, [.markh], 470⟩,
    ⟨47, 47, [.markh, .save_host], 455⟩, ⟨48, 48, [.markh], 471⟩, ⟨49, 49, [.markh], 485⟩,
    ⟨50, 50, [.markh], 487⟩, ⟨51, 57, [.markh], 486⟩, ⟨58, 58, [.markh, .save_host], 461⟩,
    ⟨59, 59, [.markh], 470⟩, ⟨61, 61, [.markh], 470⟩, ⟨63, 63, [.markh, .save_host], 456⟩,
    ⟨65, 90, [.markh], 470⟩, ⟨91, 91, [.markh], 38⟩, ⟨95, 95, [.markh], 470⟩,
    ⟨97, 122, [.markh], 470⟩, ⟨126, 126, [.markh], 470⟩]],
  [[⟨33, 33, [], 470⟩, ⟨35, 35, [.save_host], 453⟩, ⟨36, 36, [], 470⟩, ⟨37, 37, [], 36⟩,
    ⟨38, 46, [], 470⟩, ⟨47, 47, [.save_host], 455⟩, ⟨48, 57, [], 470⟩,
    ⟨58, 58, [.save_host], 461⟩, ⟨59, 59, [], 470⟩, ⟨61, 61, [], 470⟩,
    ⟨63, 63, [.save_host], 456⟩, ⟨65, 90, [], 470⟩, ⟨95, 95, [], 470⟩, ⟨97, 122, [], 470⟩,
    ⟨126, 126, [], 470⟩],
   [⟨33, 33, [], 470⟩, ⟨35, 35, [.save_host], 453⟩, ⟨36, 36, [], 470⟩, ⟨37, 37, [], 36⟩,
    ⟨38, 45, [], 470⟩, ⟨46, 46, [], 472⟩, ⟨47, 47, [.save_host], 455⟩, ⟨48, 57, [], 470⟩,
    ⟨58, 58, [.save_host], 461⟩, ⟨59, 59, [], 470⟩, ⟨61, 61, [], 470⟩,
    ⟨63, 63, [.save_host], 456⟩, ⟨65, 90, [], 470⟩, ⟨95, 95, [], 470⟩, ⟨97, 122, [], 470⟩,
    ⟨126, 126, [], 470⟩],
   [⟨2, 2, [], 13⟩, ⟨33, 33, [], 470⟩, ⟨35, 35, [.save_host], 453⟩, ⟨36, 36, [], 470⟩,
    ⟨37, 37, [], 36⟩, ⟨38, 46, [], 470⟩, ⟨47, 47, [.save_host], 455⟩, ⟨48, 48, [], 473⟩,
    ⟨49, 49, [], 481⟩, ⟨50, 50, [], 483⟩, ⟨51, 57, [], 482⟩, ⟨58, 58, [.save_host], 461⟩,
    ⟨59, 59, [], 470⟩, ⟨61, 61, [], 470⟩, ⟨63, 63, [.save_host], 456⟩, ⟨65, 90, [], 470⟩,
    ⟨95, 95, [], 470⟩, ⟨97, 122, [], 470⟩, ⟨126, 126, [], 470⟩],
   [⟨33, 33, [], 470⟩, ⟨35, 35, [.save_host], 453⟩, ⟨36, 36, [], 470⟩, ⟨37, 37, [], 36⟩,
    ⟨38, 45, [], 470⟩, ⟨46, 46, [], 474⟩, ⟨47, 47, [.save_host], 455⟩, ⟨48, 57, [], 470⟩,
    ⟨58, 58, [.save_host], 461⟩, ⟨59, 59, [], 470⟩, ⟨61, 61, [], 470⟩,
    ⟨63, 63, [.save_host], 456⟩, ⟨65, 90, [], 470⟩, ⟨95, 95, [], 470⟩, ⟨97, 122, [], 470⟩,
    ⟨126, 126, [], 470⟩],
   [⟨2, 2, [], 17⟩, ⟨33, 33, [], 470⟩, ⟨35, 35, [.save_host], 453⟩, ⟨36, 36, [], 470⟩,
    ⟨37, 37, [], 36⟩, ⟨38, 46, [], 470⟩, ⟨47, 47, [.save_host], 455⟩, ⟨48, 48, [], 475⟩,
    ⟨49, 49, [], 477⟩, ⟨50, 50, [], 479⟩, ⟨51, 57, [], 478⟩, ⟨58, 58, [.save_host], 461⟩,
    ⟨59, 59, [], 470⟩, ⟨61, 61, [], 470⟩, ⟨63, 63, [.save_host], 456⟩, ⟨65, 90, [], 470⟩,
    ⟨95, 95, [], 470⟩, ⟨97, 122, [], 470⟩, ⟨126, 126, [], 470⟩],
   [⟨33, 33, [], 470⟩, ⟨35, 35, [.save_host], 453⟩, ⟨36, 36, [], 470⟩, ⟨37, 37, [], 36⟩,
    ⟨38, 45, [], 470⟩, ⟨46, 46, [], 476⟩, ⟨47, 47, [.save_host], 455⟩, ⟨48, 57, [], 470⟩,
    ⟨58, 58, [.save_host], 461⟩, ⟨59, 59, [], 470⟩, ⟨61, 61, [], 470⟩,
    ⟨63, 63, [.save_host], 456⟩, ⟨65, 90, [], 470⟩, ⟨95, 95, [], 470⟩, ⟨97, 122, [], 470⟩,
    ⟨126, 126, [], 470⟩],
   [⟨2, 2, [], 21⟩, ⟨33, 33, [], 470⟩, ⟨35, 35, [.save_host], 453⟩, ⟨36, 36, [], 470⟩,
    ⟨37, 37, [], 36⟩, ⟨38, 46, [], 470⟩, ⟨47, 47, [.save_host], 455⟩, ⟨48, 57, [], 470⟩,
    ⟨58, 58, [.save_host], 461⟩, ⟨59, 59, [], 470⟩, ⟨61, 61, [], 470⟩,
    ⟨63, 63, [.save_host], 456⟩, ⟨65, 90, [], 470⟩, ⟨95, 95, [], 470⟩, ⟨97, 122, [], 470⟩,
    ⟨126, 126, [], 470⟩],
   [⟨33, 33, [], 470⟩, ⟨35, 35, [.save_host], 453⟩, ⟨36, 36, [], 470⟩, ⟨37, 37, [], 36⟩,
    ⟨38, 45, [], 470⟩, ⟨46, 46, [], 476⟩, ⟨47, 47, [.save_host], 455⟩, ⟨48, 57, [], 478⟩,
    ⟨58, 58, [.save_host], 461⟩, ⟨59, 59, [], 470⟩, ⟨61, 61, [], 470⟩,
    ⟨63, 63, [.save_host], 456⟩, ⟨65, 90, [], 470⟩, ⟨95, 95, [], 470⟩, ⟨97, 122, [], 470⟩,
    ⟨126, 126, [], 470⟩],
   [⟨33, 33, [], 470⟩, ⟨35, 35, [.save_host], 453⟩, ⟨36, 36, [], 470⟩, ⟨37, 37, [], 36⟩,
    ⟨38, 45, [], 470⟩, ⟨46, 46, [], 476⟩, ⟨47, 47, [.save_host], 455⟩, ⟨48, 57, [], 475⟩,
    ⟨58, 58, [.save_host], 461⟩, ⟨59, 59, [], 470⟩, ⟨61, 61, [], 470⟩,
    ⟨63, 63, [.save_host], 456⟩, ⟨65, 90, [], 470⟩, ⟨95, 95, [], 470⟩, ⟨97, 122, [], 470⟩,
    ⟨126, 126, [], 470⟩],
   [⟨33, 33, [], 470⟩, ⟨35, 35, [.save_host], 453⟩, ⟨36, 36, [], 470⟩, ⟨37, 37, [], 36⟩,
    ⟨38, 45, [], 470⟩, ⟨46, 46, [], 476⟩, ⟨47, 47, [.save_host], 455⟩, ⟨48, 52, [], 475⟩,
    ⟨53, 53, [], 480⟩, ⟨54, 57, [], 475⟩, ⟨58, 58, [.save_host], 461⟩, ⟨59, 59, [], 470⟩,
    ⟨61, 61, [], 470⟩, ⟨63, 63, [.save_host], 456⟩, ⟨65, 90, [], 470⟩, ⟨95, 95, [], 470⟩,
    ⟨97, 122, [], 470⟩, ⟨126, 126, [], 470⟩]],
  [[⟨33, 33, [], 470⟩, ⟨35, 35, [.save_host], 453⟩, ⟨36, 36, [], 470⟩, ⟨37, 37, [], 36⟩,
    ⟨38, 45, [], 470⟩, ⟨46, 46, [], 476⟩, ⟨47, 47, [.save_host], 455⟩, ⟨48, 53, [], 475⟩,
    ⟨54, 57, [], 470⟩, ⟨58, 58, [.save_host], 461⟩, ⟨59, 59, [], 470⟩, ⟨61, 61, [], 470⟩,
    ⟨63, 63, [.save_host], 456⟩, ⟨65, 90, [], 470⟩, ⟨95, 95, [], 470⟩, ⟨97, 122, [], 470⟩,
    ⟨126, 126, [], 470⟩],
   [⟨33, 33, [], 470⟩, ⟨35, 35, [.save_host], 453⟩, ⟨36, 36, [], 470⟩, ⟨37, 37, [], 36⟩,
    ⟨38, 45, [], 470⟩, ⟨46, 46, [], 474⟩, ⟨47, 47, [.save_host], 455⟩, ⟨48, 57, [], 482⟩,
    ⟨58, 58, [.save_host], 461⟩, ⟨59, 59, [], 470⟩, ⟨61, 61, [], 470⟩,
    ⟨63, 63, [.save_host], 456⟩, ⟨65, 90, [], 470⟩, ⟨95, 95, [], 470⟩, ⟨97, 122, [], 470⟩,
    ⟨126, 126, [], 470⟩],
   [⟨33, 33, [], 470⟩, ⟨35, 35, [.save_host], 453⟩, ⟨36, 36, [], 470⟩, ⟨37, 37, [], 36⟩,
    ⟨38, 45, [], 470⟩, ⟨46, 46, [], 474⟩, ⟨47, 47, [.save_host], 455⟩, ⟨48, 57, [], 473⟩,
    ⟨58, 58, [.save_host], 461⟩, ⟨59, 59, [], 470⟩, ⟨61, 61, [], 470⟩,
    ⟨63, 63, [.save_host], 456⟩, ⟨65, 90, [], 470⟩, ⟨95, 95, [], 470⟩, ⟨97, 122, [], 470⟩,
    ⟨126, 126, [], 470⟩],
   [⟨33, 33, [], 470⟩, ⟨35, 35, [.save_host], 453⟩, ⟨36, 36, [], 470⟩, ⟨37, 37, [], 36⟩,
    ⟨38, 45, [], 470⟩, ⟨46, 46, [], 474⟩, ⟨47, 47, [.save_host], 455⟩, ⟨48, 52, [], 473⟩,
    ⟨53, 53, [], 484⟩, ⟨54, 57, [], 473⟩, ⟨58, 58, [.save_host], 461⟩, ⟨59, 59, [], 470⟩,
    ⟨61, 61, [], 470⟩, ⟨63, 63, [.save_host], 456⟩, ⟨65, 90, [], 470⟩, ⟨95, 95, [], 470⟩,
    ⟨97, 122, [], 470⟩, ⟨126, 126, [], 470⟩],
   [⟨33, 33, [], 470⟩, ⟨35, 35, [.save_host], 453⟩, ⟨36, 36, [], 470⟩, ⟨37, 37, [], 36⟩,
    ⟨38, 45, [], 470⟩, ⟨46, 46, [], 474⟩, ⟨47, 47, [.save_host], 455⟩, ⟨48, 53, [], 473⟩,
    ⟨54, 57, [], 470⟩, ⟨58, 58, [.save_host], 461⟩, ⟨59, 59, [], 470⟩, ⟨61, 61, [], 470⟩,
    ⟨63, 63, [.save_host], 456⟩, ⟨65, 90, [], 470⟩, ⟨95, 95, [], 470⟩, ⟨97, 122, [], 470⟩,
    ⟨126, 126, [], 470⟩],
   [⟨33, 33, [], 470⟩, ⟨35, 35, [.save_host], 453⟩, ⟨36, 36, [], 470⟩, ⟨37, 37, [], 36⟩,
    ⟨38, 45, [], 470⟩, ⟨46, 46, [], 472⟩, ⟨47, 47, [.save_host], 455⟩, ⟨48, 57, [], 486⟩,
    ⟨58, 58, [.save_host], 461⟩, ⟨59, 59, [], 470⟩, ⟨61, 61, [], 470⟩,
    ⟨63, 63, [.save_host], 456⟩, ⟨65, 90, [], 470⟩, ⟨95, 95, [], 470⟩, ⟨97, 122, [], 470⟩,
    ⟨126, 126, [], 470⟩],
   [⟨33, 33, [], 470⟩, ⟨35, 35, [.save_host], 453⟩, ⟨36, 36, [], 470⟩, ⟨37, 37, [], 36⟩,
    ⟨38, 45, [], 470⟩, ⟨46, 46, [], 472⟩, ⟨47, 47, [.save_host], 455⟩, ⟨48, 57, [], 471⟩,
    ⟨58, 58, [.save_host], 461⟩, ⟨59, 59, [], 470⟩, ⟨61, 61, [], 470⟩,
    ⟨63, 63, [.save_host], 456⟩, ⟨65, 90, [], 470⟩, ⟨95, 95, [], 470⟩, ⟨97, 122, [], 470⟩,
    ⟨126, 126, [], 470⟩],
   [⟨33, 33, [], 470⟩, ⟨35, 35, [.save_host], 453⟩, ⟨36, 36, [], 470⟩, ⟨37, 37, [], 36⟩,
    ⟨38, 45, [], 470⟩, ⟨46, 46, [], 472⟩, ⟨47, 47, [.save_host], 455⟩, ⟨48, 52, [], 471⟩,
    ⟨53, 53, [], 488⟩, ⟨54, 57, [], 471⟩, ⟨58, 58, [.save_host], 461⟩, ⟨59, 59, [], 470⟩,
    ⟨61, 61, [], 470⟩, ⟨63, 63, [.save_host], 456⟩, ⟨65, 90, [], 470⟩, ⟨95, 95, [], 470⟩,
    ⟨97, 122, [], 470⟩, ⟨126, 126, [], 470⟩],
   [⟨33, 33, [], 470⟩, ⟨35, 35, [.save_host], 453⟩, ⟨36, 36, [], 470⟩, ⟨37, 37, [], 36⟩,
    ⟨38, 45, [], 470⟩, ⟨46, 46, [], 472⟩, ⟨47, 47, [.save_host], 455⟩, ⟨48, 53, [], 471⟩,
    ⟨54, 57, [], 470⟩, ⟨58, 58, [.save_host], 461⟩, ⟨59, 59, [], 470⟩, ⟨61, 61, [], 470⟩,
    ⟨63, 63, [.save_host], 456⟩, ⟨65, 90, [], 470⟩, ⟨95, 95, [], 470⟩, ⟨97, 122, [], 470⟩,
    ⟨126, 126, [], 470⟩],
   [⟨33, 33, [], 33⟩, ⟨35, 35, [.save_port], 453⟩, ⟨36, 36, [], 33⟩, ⟨37, 37, [], 34⟩,
    ⟨38, 46, [], 33⟩, ⟨47, 47, [.save_port], 455⟩, ⟨48, 57, [], 489⟩, ⟨58, 59, [], 33⟩,
    ⟨61, 61, [], 33⟩, ⟨63, 63, [.save_port], 456⟩, ⟨64, 64, [.save_userinfo], 469⟩,
    ⟨65, 90, [], 33⟩, ⟨95, 95, [], 33⟩, ⟨97, 122, [], 33⟩, ⟨126, 126, [], 33⟩]],
  [[⟨33, 33, [], 467⟩, ⟨35, 35, [.save_host], 453⟩, ⟨36, 36, [], 467⟩, ⟨37, 37, [], 31⟩,
    ⟨38, 45, [], 467⟩, ⟨46, 46, [], 491⟩, ⟨47, 47, [.save_host], 455⟩, ⟨48, 57, [], 467⟩,
    ⟨58, 58, [.save_host], 468⟩, ⟨59, 59, [], 467⟩, ⟨61, 61, [], 467⟩,
    ⟨63, 63, [.save_host], 456⟩, ⟨64, 64, [.save_userinfo], 469⟩, ⟨65, 90, [], 467⟩,
    ⟨95, 95, [], 467⟩, ⟨97, 122, [], 467⟩, ⟨126, 126, [], 467⟩],
   [⟨2, 2, [], 13⟩, ⟨33, 33, [], 467⟩, ⟨35, 35, [.save_host], 453⟩, ⟨36, 36, [], 467⟩,
    ⟨37, 37, [], 31⟩, ⟨38, 46, [], 467⟩, ⟨47, 47, [.save_host], 455⟩, ⟨48, 48, [], 492⟩,
    ⟨49, 49, [], 500⟩, ⟨50, 50, [], 502⟩, ⟨51, 57, [], 501⟩, ⟨58, 58, [.save_host], 468⟩,
    ⟨59, 59, [], 467⟩, ⟨61, 61, [], 467⟩, ⟨63, 63, [.save_host], 456⟩,
    ⟨64, 64, [.save_userinfo], 469⟩, ⟨65, 90, [], 467⟩, ⟨95, 95, [], 467⟩, ⟨97, 122, [], 467⟩,
    ⟨126, 126, [], 467⟩],
   [⟨33, 33, [], 467⟩, ⟨35, 35, [.save_host], 453⟩, ⟨36, 36, [], 467⟩, ⟨37, 37, [], 31⟩,
    ⟨38, 45, [], 467⟩, ⟨46, 46, [], 493⟩, ⟨47, 47, [.save_host], 455⟩, ⟨48, 57, [], 467⟩,
    ⟨58, 58, [.save_host], 468⟩, ⟨59, 59, [], 467⟩, ⟨61, 61, [], 467⟩,
    ⟨63, 63, [.save_host], 456⟩, ⟨64, 64, [.save_userinfo], 469⟩, ⟨65, 90, [], 467⟩,
    ⟨95, 95, [], 467⟩, ⟨97, 122, [], 467⟩, ⟨126, 126, [], 467⟩],
   [⟨2, 2, [], 17⟩, ⟨33, 33, [], 467⟩, ⟨35, 35, [.save_host], 453⟩, ⟨36, 36, [], 467⟩,
    ⟨37, 37, [], 31⟩, ⟨38, 46, [], 467⟩, ⟨47, 47, [.save_host], 455⟩, ⟨48, 48, [], 494⟩,
    ⟨49, 49, [], 496⟩, ⟨50, 50, [], 498⟩, ⟨51, 57, [], 497⟩, ⟨58, 58, [.save_host], 468⟩,
    ⟨59, 59, [], 467⟩, ⟨61, 61, [], 467⟩, ⟨63, 63, [.save_host], 456⟩,
    ⟨64, 64, [.save_userinfo], 469⟩, ⟨65, 90, [], 467⟩, ⟨95, 95, [], 467⟩, ⟨97, 122, [], 467⟩,
    ⟨126, 126, [], 467⟩],
   [⟨33, 33, [], 467⟩, ⟨35, 35, [.save_host], 453⟩, ⟨36, 36, [], 467⟩, ⟨37, 37, [], 31⟩,
    ⟨38, 45, [], 467⟩, ⟨46, 46, [], 495⟩, ⟨47, 47, [.save_host], 455⟩, ⟨48, 57, [], 467⟩,
    ⟨58, 58, [.save_host], 468⟩, ⟨59, 59, [], 467⟩, ⟨61, 61, [], 467⟩,
    ⟨63, 63, [.save_host], 456⟩, ⟨64, 64, [.save_userinfo], 469⟩, ⟨65, 90, [], 467⟩,
    ⟨95, 95, [], 467⟩, ⟨97, 122, [], 467⟩, ⟨126, 126, [], 467⟩],
   [⟨2, 2, [], 21⟩, ⟨33, 33, [], 467⟩, ⟨35, 35, [.save_host], 453⟩, ⟨36, 36, [], 467⟩,
    ⟨37, 37, [], 31⟩, ⟨38, 46, [], 467⟩, ⟨47, 47, [.save_host], 455⟩, ⟨48, 57, [], 467⟩,
    ⟨58, 58, [.save_host], 468⟩, ⟨59, 59, [], 467⟩, ⟨61, 61, [], 467⟩,
    ⟨63, 63, [.save_host], 456⟩, ⟨64, 64, [.save_userinfo], 469⟩, ⟨65, 90, [], 467⟩,
    ⟨95, 95, [], 467⟩, ⟨97, 122, [], 467⟩, ⟨126, 126, [], 467⟩],
   [⟨33, 33, [], 467⟩, ⟨35, 35, [.save_host], 453⟩, ⟨36, 36, [], 467⟩, ⟨37, 37, [], 31⟩,
    ⟨38, 45, [], 467⟩, ⟨46, 46, [], 495⟩, ⟨47, 47, [.save_host], 455⟩, ⟨48, 57, [], 497⟩,
    ⟨58, 58, [.save_host], 468⟩, ⟨59, 59, [], 467⟩, ⟨61, 61, [], 467⟩,
    ⟨63, 63, [.save_host], 456⟩, ⟨64, 64, [.save_userinfo], 469⟩, ⟨65, 90, [], 467⟩,
    ⟨95, 95, [], 467⟩, ⟨97, 122, [], 467⟩, ⟨126, 126, [], 467⟩],
   [⟨33, 33, [], 467⟩, ⟨35, 35, [.save_host], 453⟩, ⟨36, 36, [], 467⟩, ⟨37, 37, [], 31⟩,
    ⟨38, 45, [], 467⟩, ⟨46, 46, [], 495⟩, ⟨47, 47, [.save_host], 455⟩, ⟨48, 57, [], 494⟩,
    ⟨58, 58, [.save_host], 468⟩, ⟨59, 59, [], 467⟩, ⟨61, 61, [], 467⟩,
    ⟨63, 63, [.save_host], 456⟩, ⟨64, 64, [.save_userinfo], 469⟩, ⟨65, 90, [], 467⟩,
    ⟨95, 95, [], 467⟩, ⟨97, 122, [], 467⟩, ⟨126, 126, [], 467⟩],
   [⟨33, 33, [], 467⟩, ⟨35, 35, [.save_host], 453⟩, ⟨36, 36, [], 467⟩, ⟨37, 37, [], 31⟩,
    ⟨38, 45, [], 467⟩, ⟨46, 46, [], 495⟩, ⟨47, 47, [.save_host], 455⟩, ⟨48, 52, [], 494⟩,
    ⟨53, 53, [], 499⟩, ⟨54, 57, [], 494⟩, ⟨58, 58, [.save_host], 468⟩, ⟨59, 59, [], 467⟩,
    ⟨61, 61, [], 467⟩, ⟨63, 63, [.save_host], 456⟩, ⟨64, 64, [.save_userinfo], 469⟩,
    ⟨65, 90, [], 467⟩, ⟨95, 95, [], 467⟩, ⟨97, 122, [], 467⟩, ⟨126, 126, [], 467⟩],
   [⟨33, 33, [], 467⟩, ⟨35, 35, [.save_host], 453⟩, ⟨36, 36, [], 467⟩, ⟨37, 37, [], 31⟩,
    ⟨38, 45, [], 467⟩, ⟨46, 46, [], 495⟩, ⟨47, 47, [.save_host], 455⟩, ⟨48, 53, [], 494⟩,
    ⟨54, 57, [], 467⟩, ⟨58, 58, [.save_host], 468⟩, ⟨59, 59, [], 467⟩, ⟨61, 61, [], 467⟩,
    ⟨63, 63, [.save_host], 456⟩, ⟨64, 64, [.save_userinfo], 469⟩, ⟨65, 90, [], 467⟩,
    ⟨95, 95, [], 467⟩, ⟨97, 122, [], 467⟩, ⟨126, 126, [], 467⟩]]]

/-- The states 500 to 560, ten by ten. -/
def states500 : List (List (List (Edge Action))) := [
  [[⟨33, 33, [], 467⟩, ⟨35, 35, [.save_host], 453⟩, ⟨36, 36, [], 467⟩, ⟨37, 37, [], 31⟩,
    ⟨38, 45, [], 467⟩, ⟨46, 46, [], 493⟩, ⟨47, 47, [.save_host], 455⟩, ⟨48, 57, [], 501⟩,
    ⟨58, 58, [.save_host], 468⟩, ⟨59, 59, [], 467⟩, ⟨61, 61, [], 467⟩,
    ⟨63, 63, [.save_host], 456⟩, ⟨64, 64, [.save_userinfo], 469⟩, ⟨65, 90, [], 467⟩,
    ⟨95, 95, [], 467⟩, ⟨97, 122, [], 467⟩, ⟨126, 126, [], 467⟩],
   [⟨33, 33, [], 467⟩, ⟨35, 35, [.save_host], 453⟩, ⟨36, 36, [], 467⟩, ⟨37, 37, [], 31⟩,
    ⟨38, 45, [], 467⟩, ⟨46, 46, [], 493⟩, ⟨47, 47, [.save_host], 455⟩, ⟨48, 57, [], 492⟩,
    ⟨58, 58, [.save_host], 468⟩, ⟨59, 59, [], 467⟩, ⟨61, 61, [], 467⟩,
    ⟨63, 63, [.save_host], 456⟩, ⟨64, 64, [.save_userinfo], 469⟩, ⟨65, 90, [], 467⟩,
    ⟨95, 95, [], 467⟩, ⟨97, 122, [], 467⟩, ⟨126, 126, [], 467⟩],
   [⟨33, 33, [], 467⟩, ⟨35, 35, [.save_host], 453⟩, ⟨36, 36, [], 467⟩, ⟨37, 37, [], 31⟩,
    ⟨38, 45, [], 467⟩, ⟨46, 46, [], 493⟩, ⟨47, 47, [.save_host], 455⟩, ⟨48, 52, [], 492⟩,
    ⟨53, 53, [], 503⟩, ⟨54, 57, [], 492⟩, ⟨58, 58, [.save_host], 468⟩, ⟨59, 59, [], 467⟩,
    ⟨61, 61, [], 467⟩, ⟨63, 63, [.save_host], 456⟩, ⟨64, 64, [.save_userinfo], 469⟩,
    ⟨65, 90, [], 467⟩, ⟨95, 95, [], 467⟩, ⟨97, 122, [], 467⟩, ⟨126, 126, [], 467⟩],
   [⟨33, 33, [], 467⟩, ⟨35, 35, [.save_host], 453⟩, ⟨36, 36, [], 467⟩, ⟨37, 37, [], 31⟩,
    ⟨38, 45, [], 467⟩, ⟨46, 46, [], 493⟩, ⟨47, 47, [.save_host], 455⟩, ⟨48, 53, [], 492⟩,
    ⟨54, 57, [], 467⟩, ⟨58, 58, [.save_host], 468⟩, ⟨59, 59, [], 467⟩, ⟨61, 61, [], 467⟩,
    ⟨63, 63, [.save_host], 456⟩, ⟨64, 64, [.save_userinfo], 469⟩, ⟨65, 90, [], 467⟩,
    ⟨95, 95, [], 467⟩, ⟨97, 122, [], 467⟩, ⟨126, 126, [], 467⟩],
   [⟨33, 33, [], 467⟩, ⟨35, 35, [.save_host], 453⟩, ⟨36, 36, [], 467⟩, ⟨37, 37, [], 31⟩,
    ⟨38, 45, [], 467⟩, ⟨46, 46, [], 491⟩, ⟨47, 47, [.save_host], 455⟩, ⟨48, 57, [], 505⟩,
    ⟨58, 58, [.save_host], 468⟩, ⟨59, 59, [], 467⟩, ⟨61, 61, [], 467⟩,
    ⟨63, 63, [.save_host], 456⟩, ⟨64, 64, [.save_userinfo], 469⟩, ⟨65, 90, [], 467⟩,
    ⟨95, 95, [], 467⟩, ⟨97, 122, [], 467⟩, ⟨126, 126, [], 467⟩],
   [⟨33, 33, [], 467⟩, ⟨35, 35, [.save_host], 453⟩, ⟨36, 36, [], 467⟩, ⟨37, 37, [], 31⟩,
    ⟨38, 45, [], 467⟩, ⟨46, 46, [], 491⟩, ⟨47, 47, [.save_host], 455⟩, ⟨48, 57, [], 490⟩,
    ⟨58, 58, [.save_host], 468⟩, ⟨59, 59, [], 467⟩, ⟨61, 61, [], 467⟩,
    ⟨63, 63, [.save_host], 456⟩, ⟨64, 64, [.save_userinfo], 469⟩, ⟨65, 90, [], 467⟩,
    ⟨95, 95, [], 467⟩, ⟨97, 122, [], 467⟩, ⟨126, 126, [], 467⟩],
   [⟨33, 33, [], 467⟩, ⟨35, 35, [.save_host], 453⟩, ⟨36, 36, [], 467⟩, ⟨37, 37, [], 31⟩,
    ⟨38, 45, [], 467⟩, ⟨46, 46, [], 491⟩, ⟨47, 47, [.save_host], 455⟩, ⟨48, 52, [], 490⟩,
    ⟨53, 53, [], 507⟩, ⟨54, 57, [], 490⟩, ⟨58, 58, [.save_host], 468⟩, ⟨59, 59, [], 467⟩,
    ⟨61, 61, [], 467⟩, ⟨63, 63, [.save_host], 456⟩, ⟨64, 64, [.save_userinfo], 469⟩,
    ⟨65, 90, [], 467⟩, ⟨95, 95, [], 467⟩, ⟨97, 122, [], 467⟩, ⟨126, 126, [], 467⟩],
   [⟨33, 33, [], 467⟩, ⟨35, 35, [.save_host], 453⟩, ⟨36, 36, [], 467⟩, ⟨37, 37, [], 31⟩,
    ⟨38, 45, [], 467⟩, ⟨46, 46, [], 491⟩, ⟨47, 47, [.save_host], 455⟩, ⟨48, 53, [], 490⟩,
    ⟨54, 57, [], 467⟩, ⟨58, 58, [.save_host], 468⟩, ⟨59, 59, [], 467⟩, ⟨61, 61, [], 467⟩,
    ⟨63, 63, [.save_host], 456⟩, ⟨64, 64, [.save_userinfo], 469⟩, ⟨65, 90, [], 467⟩,
    ⟨95, 95, [], 467⟩, ⟨97, 122, [], 467⟩, ⟨126, 126, [], 467⟩],
   [⟨33, 33, [], 452⟩, ⟨35, 35, [], 453⟩, ⟨36, 36, [], 452⟩, ⟨37, 37, [], 3⟩, ⟨38, 42, [], 452⟩,
    ⟨43, 43, [], 508⟩, ⟨44, 44, [], 452⟩, ⟨45, 46, [], 508⟩, ⟨47, 47, [], 455⟩,
    ⟨48, 57, [], 508⟩, ⟨58, 58, [.save_scheme], 509⟩, ⟨59, 59, [], 452⟩, ⟨61, 61, [], 452⟩,
    ⟨63, 63, [], 456⟩, ⟨64, 64, [], 452⟩, ⟨65, 90, [], 508⟩, ⟨95, 95, [], 452⟩,
    ⟨97, 122, [], 508⟩, ⟨126, 126, [], 452⟩, ⟨128, 255, [], 452⟩],
   [⟨33, 33, [], 455⟩, ⟨35, 35, [], 453⟩, ⟨36, 36, [], 455⟩, ⟨37, 37, [], 5⟩, ⟨38, 46, [], 455⟩,
    ⟨47, 47, [], 510⟩, ⟨48, 59, [], 455⟩, ⟨61, 61, [], 455⟩, ⟨63, 63, [], 456⟩,
    ⟨64, 90, [], 455⟩, ⟨95, 95, [], 455⟩, ⟨97, 122, [], 455⟩, ⟨126, 126, [], 455⟩,
    ⟨128, 255, [], 455⟩]],
  [[⟨33, 33, [], 455⟩, ⟨35, 35, [], 453⟩, ⟨36, 36, [], 455⟩, ⟨37, 37, [], 5⟩, ⟨38, 46, [], 455⟩,
    ⟨47, 47, [], 511⟩, ⟨48, 59, [], 455⟩, ⟨61, 61, [], 455⟩, ⟨63, 63, [], 456⟩,
    ⟨64, 90, [], 455⟩, ⟨95, 95, [], 455⟩, ⟨97, 122, [], 455⟩, ⟨126, 126, [], 455⟩,
    ⟨128, 255, [], 455⟩],
   [⟨2, 2, [.markh], 229⟩, ⟨33, 33, [.markh], 520⟩,
    ⟨35, 35, [.markh, .save_host, .save_path], 453⟩, ⟨36, 36, [.markh], 520⟩,
    ⟨37, 37, [.markh], 253⟩, ⟨38, 46, [.markh], 520⟩, ⟨47, 47, [.markh, .save_host], 513⟩,
    ⟨48, 48, [.markh], 543⟩, ⟨49, 49, [.markh], 557⟩, ⟨50, 50, [.markh], 559⟩,
    ⟨51, 57, [.markh], 558⟩, ⟨58, 58, [.markh, .save_host], 521⟩, ⟨59, 59, [.markh], 520⟩,
    ⟨61, 61, [.markh], 520⟩, ⟨63, 63, [.markh, .save_host, .save_path], 456⟩,
    ⟨64, 64, [.markh, .save_userinfo], 522⟩, ⟨65, 90, [.markh], 520⟩, ⟨91, 91, [.markh], 260⟩,
    ⟨95, 95, [.markh], 520⟩, ⟨97, 122, [.markh], 520⟩, ⟨126, 126, [.markh], 520⟩],
   [⟨35, 35, [.save_host, .markh, .save_path], 453⟩, ⟨47, 47, [.save_host, .markh], 513⟩,
    ⟨58, 58, [.save_host], 514⟩, ⟨63, 63, [.save_host, .markh, .save_path], 456⟩],
   [⟨33, 33, [], 513⟩, ⟨35, 35, [.save_path], 453⟩, ⟨36, 36, [], 513⟩, ⟨37, 37, [], 243⟩,
    ⟨38, 59, [], 513⟩, ⟨61, 61, [], 513⟩, ⟨63, 63, [.save_path], 456⟩, ⟨64, 90, [], 513⟩,
    ⟨95, 95, [], 513⟩, ⟨97, 122, [], 513⟩, ⟨126, 126, [], 513⟩, ⟨128, 255, [], 513⟩],
   [⟨35, 35, [.markh, .save_port, .save_path], 453⟩, ⟨47, 47, [.markh, .save_port], 513⟩,
    ⟨48, 57, [.markh], 515⟩, ⟨63, 63, [.markh, .save_port, .save_path], 456⟩],
   [⟨35, 35, [.save_port, .markh, .save_path], 453⟩, ⟨47, 47, [.save_port, .markh], 513⟩,
    ⟨48, 57, [], 515⟩, ⟨63, 63, [.save_port, .markh, .save_path], 456⟩],
   [⟨35, 35, [.save_host, .markh, .save_path], 453⟩, ⟨47, 47, [.save_host, .markh], 513⟩,
    ⟨48, 57, [], 517⟩, ⟨58, 58, [.save_host], 514⟩,
    ⟨63, 63, [.save_host, .markh, .save_path], 456⟩],
   [⟨35, 35, [.save_host, .markh, .save_path], 453⟩, ⟨47, 47, [.save_host, .markh], 513⟩,
    ⟨48, 57, [], 512⟩, ⟨58, 58, [.save_host], 514⟩,
    ⟨63, 63, [.save_host, .markh, .save_path], 456⟩],
   [⟨35, 35, [.save_host, .markh, .save_path], 453⟩, ⟨47, 47, [.save_host, .markh], 513⟩,
    ⟨48, 52, [], 512⟩, ⟨53, 53, [], 519⟩, ⟨54, 57, [], 512⟩, ⟨58, 58, [.save_host], 514⟩,
    ⟨63, 63, [.save_host, .markh, .save_path], 456⟩],
   [⟨35, 35, [.save_host, .markh, .save_path], 453⟩, ⟨47, 47, [.save_host, .markh], 513⟩,
    ⟨48, 53, [], 512⟩, ⟨58, 58, [.save_host], 514⟩,
    ⟨63, 63, [.save_host, .markh, .save_path], 456⟩]],
  [[⟨33, 33, [], 520⟩, ⟨35, 35, [.save_host, .markh, .save_path], 453⟩, ⟨36, 36, [], 520⟩,
    ⟨37, 37, [], 253⟩, ⟨38, 46, [], 520⟩, ⟨47, 47, [.save_host, .markh], 513⟩, ⟨48, 57, [], 520⟩,
    ⟨58, 58, [.save_host], 521⟩, ⟨59, 59, [], 520⟩, ⟨61, 61, [], 520⟩,
    ⟨63, 63, [.save_host, .markh, .save_path], 456⟩, ⟨64, 64, [.save_userinfo], 522⟩,
    ⟨65, 90, [], 520⟩, ⟨95, 95, [], 520⟩, ⟨97, 122, [], 520⟩, ⟨126, 126, [], 520⟩],
   [⟨33, 33, [], 255⟩, ⟨35, 35, [.markh, .save_port, .save_path], 453⟩, ⟨36, 36, [], 255⟩,
    ⟨37, 37, [], 256⟩, ⟨38, 46, [], 255⟩, ⟨47, 47, [.markh, .save_port], 513⟩,
    ⟨48, 57, [.markh], 542⟩, ⟨58, 59, [], 255⟩, ⟨61, 61, [], 255⟩,
    ⟨63, 63, [.markh, .save_port, .save_path], 456⟩, ⟨64, 64, [.save_userinfo], 522⟩,
    ⟨65, 90, [], 255⟩, ⟨95, 95, [], 255⟩, ⟨97, 122, [], 255⟩, ⟨126, 126, [], 255⟩],
   [⟨2, 2, [.markh], 229⟩, ⟨33, 33, [.markh], 523⟩,
    ⟨35, 35, [.markh, .save_host, .save_path], 453⟩, ⟨36, 36, [.markh], 523⟩,
    ⟨37, 37, [.markh], 258⟩, ⟨38, 46, [.markh], 523⟩, ⟨47, 47, [.markh, .save_host], 513⟩,
    ⟨48, 48, [.markh], 524⟩, ⟨49, 49, [.markh], 538⟩, ⟨50, 50, [.markh], 540⟩,
    ⟨51, 57, [.markh], 539⟩, ⟨58, 58, [.markh, .save_host], 514⟩, ⟨59, 59, [.markh], 523⟩,
    ⟨61, 61, [.markh], 523⟩, ⟨63, 63, [.markh, .save_host, .save_path], 456⟩,
    ⟨65, 90, [.markh], 523⟩, ⟨91, 91, [.markh], 260⟩, ⟨95, 95, [.markh], 523⟩,
    ⟨97, 122, [.markh], 523⟩, ⟨126, 126, [.markh], 523⟩],
   [⟨33, 33, [], 523⟩, ⟨35, 35, [.save_host, .markh, .save_path], 453⟩, ⟨36, 36, [], 523⟩,
    ⟨37, 37, [], 258⟩, ⟨38, 46, [], 523⟩, ⟨47, 47, [.save_host, .markh], 513⟩, ⟨48, 57, [], 523⟩,
    ⟨58, 58, [.save_host], 514⟩, ⟨59, 59, [], 523⟩, ⟨61, 61, [], 523⟩,
    ⟨63, 63, [.save_host, .markh, .save_path], 456⟩, ⟨65, 90, [], 523⟩, ⟨95, 95, [], 523⟩,
    ⟨97, 122, [], 523⟩, ⟨126, 126, [], 523⟩],
   [⟨33, 33, [], 523⟩, ⟨35, 35, [.save_host, .markh, .save_path], 453⟩, ⟨36, 36, [], 523⟩,
    ⟨37, 37, [], 258⟩, ⟨38, 45, [], 523⟩, ⟨46, 46, [], 525⟩, ⟨47, 47, [.save_host, .markh], 513⟩,
    ⟨48, 57, [], 523⟩, ⟨58, 58, [.save_host], 514⟩, ⟨59, 59, [], 523⟩, ⟨61, 61, [], 523⟩,
    ⟨63, 63, [.save_host, .markh, .save_path], 456⟩, ⟨65, 90, [], 523⟩, ⟨95, 95, [], 523⟩,
    ⟨97, 122, [], 523⟩, ⟨126, 126, [], 523⟩],
   [⟨2, 2, [], 233⟩, ⟨33, 33, [], 523⟩, ⟨35, 35, [.save_host, .markh, .save_path], 453⟩,
    ⟨36, 36, [], 523⟩, ⟨37, 37, [], 258⟩, ⟨38, 46, [], 523⟩, ⟨47, 47, [.save_host, .markh], 513⟩,
    ⟨48, 48, [], 526⟩, ⟨49, 49, [], 534⟩, ⟨50, 50, [], 536⟩, ⟨51, 57, [], 535⟩,
    ⟨58, 58, [.save_host], 514⟩, ⟨59, 59, [], 523⟩, ⟨61, 61, [], 523⟩,
    ⟨63, 63, [.save_host, .markh, .save_path], 456⟩, ⟨65, 90, [], 523⟩, ⟨95, 95, [], 523⟩,
    ⟨97, 122, [], 523⟩, ⟨126, 126, [], 523⟩],
   [⟨33, 33, [], 523⟩, ⟨35, 35, [.save_host, .markh, .save_path], 453⟩, ⟨36, 36, [], 523⟩,
    ⟨37, 37, [], 258⟩, ⟨38, 45, [], 523⟩, ⟨46, 46, [], 527⟩, ⟨47, 47, [.save_host, .markh], 513⟩,
    ⟨48, 57, [], 523⟩, ⟨58, 58, [.save_host], 514⟩, ⟨59, 59, [], 523⟩, ⟨61, 61, [], 523⟩,
    ⟨63, 63, [.save_host, .markh, .save_path], 456⟩, ⟨65, 90, [], 523⟩, ⟨95, 95, [], 523⟩,
    ⟨97, 122, [], 523⟩, ⟨126, 126, [], 523⟩],
   [⟨2, 2, [], 237⟩, ⟨33, 33, [], 523⟩, ⟨35, 35, [.save_host, .markh, .save_path], 453⟩,
    ⟨36, 36, [], 523⟩, ⟨37, 37, [], 258⟩, ⟨38, 46, [], 523⟩, ⟨47, 47, [.save_host, .markh], 513⟩,
    ⟨48, 48, [], 528⟩, ⟨49, 49, [], 530⟩, ⟨50, 50, [], 532⟩, ⟨51, 57, [], 531⟩,
    ⟨58, 58, [.save_host], 514⟩, ⟨59, 59, [], 523⟩, ⟨61, 61, [], 523⟩,
    ⟨63, 63, [.save_host, .markh, .save_path], 456⟩, ⟨65, 90, [], 523⟩, ⟨95, 95, [], 523⟩,
    ⟨97, 122, [], 523⟩, ⟨126, 126, [], 523⟩],
   [⟨33, 33, [], 523⟩, ⟨35, 35, [.save_host, .markh, .save_path], 453⟩, ⟨36, 36, [], 523⟩,
    ⟨37, 37, [], 258⟩, ⟨38, 45, [], 523⟩, ⟨46, 46, [], 529⟩, ⟨47, 47, [.save_host, .markh], 513⟩,
    ⟨48, 57, [], 523⟩, ⟨58, 58, [.save_host], 514⟩, ⟨59, 59, [], 523⟩, ⟨61, 61, [], 523⟩,
    ⟨63, 63, [.save_host, .markh, .save_path], 456⟩, ⟨65, 90, [], 523⟩, ⟨95, 95, [], 523⟩,
    ⟨97, 122, [], 523⟩, ⟨126, 126, [], 523⟩],
   [⟨2, 2, [], 241⟩, ⟨33, 33, [], 523⟩, ⟨35, 35, [.save_host, .markh, .save_path], 453⟩,
    ⟨36, 36, [], 523⟩, ⟨37, 37, [], 258⟩, ⟨38, 46, [], 523⟩, ⟨47, 47, [.save_host, .markh], 513⟩,
    ⟨48, 57, [], 523⟩, ⟨58, 58, [.save_host], 514⟩, ⟨59, 59, [], 523⟩, ⟨61, 61, [], 523⟩,
    ⟨63, 63, [.save_host, .markh, .save_path], 456⟩, ⟨65, 90, [], 523⟩, ⟨95, 95, [], 523⟩,
    ⟨97, 122, [], 523⟩, ⟨126, 126, [], 523⟩]],
  [[⟨33, 33, [], 523⟩, ⟨35, 35, [.save_host, .markh, .save_path], 453⟩, ⟨36, 36, [], 523⟩,
    ⟨37, 37, [], 258⟩, ⟨38, 45, [], 523⟩, ⟨46, 46, [], 529⟩, ⟨47, 47, [.save_host, .markh], 513⟩,
    ⟨48, 57, [], 531⟩, ⟨58, 58, [.save_host], 514⟩, ⟨59, 59, [], 523⟩, ⟨61, 61, [], 523⟩,
    ⟨63, 63, [.save_host, .markh, .save_path], 456⟩, ⟨65, 90, [], 523⟩, ⟨95, 95, [], 523⟩,
    ⟨97, 122, [], 523⟩, ⟨126, 126, [], 523⟩],
   [⟨33, 33, [], 523⟩, ⟨35, 35, [.save_host, .markh, .save_path], 453⟩, ⟨36, 36, [], 523⟩,
    ⟨37, 37, [], 258⟩, ⟨38, 45, [], 523⟩, ⟨46, 46, [], 529⟩, ⟨47, 47, [.save_host, .markh], 513⟩,
    ⟨48, 57, [], 528⟩, ⟨58, 58, [.save_host], 514⟩, ⟨59, 59, [], 523⟩, ⟨61, 61, [], 523⟩,
    ⟨63, 63, [.save_host, .markh, .save_path], 456⟩, ⟨65, 90, [], 523⟩, ⟨95, 95, [], 523⟩,
    ⟨97, 122, [], 523⟩, ⟨126, 126, [], 523⟩],
   [⟨33, 33, [], 523⟩, ⟨35, 35, [.save_host, .markh, .save_path], 453⟩, ⟨36, 36, [], 523⟩,
    ⟨37, 37, [], 258⟩, ⟨38, 45, [], 523⟩, ⟨46, 46, [], 529⟩, ⟨47, 47, [.save_host, .markh], 513⟩,
    ⟨48, 52, [], 528⟩, ⟨53, 53, [], 533⟩, ⟨54, 57, [], 528⟩, ⟨58, 58, [.save_host], 514⟩,
    ⟨59, 59, [], 523⟩, ⟨61, 61, [], 523⟩, ⟨63, 63, [.save_host, .markh, .save_path], 456⟩,
    ⟨65, 90, [], 523⟩, ⟨95, 95, [], 523⟩, ⟨97, 122, [], 523⟩, ⟨126, 126, [], 523⟩],
   [⟨33, 33, [], 523⟩, ⟨35, 35, [.save_host, .markh, .save_path], 453⟩, ⟨36, 36, [], 523⟩,
    ⟨37, 37, [], 258⟩, ⟨38, 45, [], 523⟩, ⟨46, 46, [], 529⟩, ⟨47, 47, [.save_host, .markh], 513⟩,
    ⟨48, 53, [], 528⟩, ⟨54, 57, [], 523⟩, ⟨58, 58, [.save_host], 514⟩, ⟨59, 59, [], 523⟩,
    ⟨61, 61, [], 523⟩, ⟨63, 63, [.save_host, .markh, .save_path], 456⟩, ⟨65, 90, [], 523⟩,
    ⟨95, 95, [], 523⟩, ⟨97, 122, [], 523⟩, ⟨126, 126, [], 523⟩],
   [⟨33, 33, [], 523⟩, ⟨35, 35, [.save_host, .markh, .save_path], 453⟩, ⟨36, 36, [], 523⟩,
    ⟨37, 37, [], 258⟩, ⟨38, 45, [], 523⟩, ⟨46, 46, [], 527⟩, ⟨47, 47, [.save_host, .markh], 513⟩,
    ⟨48, 57, [], 535⟩, ⟨58, 58, [.save_host], 514⟩, ⟨59, 59, [], 523⟩, ⟨61, 61, [], 523⟩,
    ⟨63, 63, [.save_host, .markh, .save_path], 456⟩, ⟨65, 90, [], 523⟩, ⟨95, 95, [], 523⟩,
    ⟨97, 122, [], 523⟩, ⟨126, 126, [], 523⟩],
   [⟨33, 33, [], 523⟩, ⟨35, 35, [.save_host, .markh, .save_path], 453⟩, ⟨36, 36, [], 523⟩,
    ⟨37, 37, [], 258⟩, ⟨38, 45, [], 523⟩, ⟨46, 46, [], 527⟩, ⟨47, 47, [.save_host, .markh], 513⟩,
    ⟨48, 57, [], 526⟩, ⟨58, 58, [.save_host], 514⟩, ⟨59, 59, [], 523⟩, ⟨61, 61, [], 523⟩,
    ⟨63, 63, [.save_host, .markh, .save_path], 456⟩, ⟨65, 90, [], 523⟩, ⟨95, 95, [], 523⟩,
    ⟨97, 122, [], 523⟩, ⟨126, 126, [], 523⟩],
   [⟨33, 33, [], 523⟩, ⟨35, 35, [.save_host, .markh, .save_path], 453⟩, ⟨36, 36, [], 523⟩,
    ⟨37, 37, [], 258⟩, ⟨38, 45, [], 523⟩, ⟨46, 46, [], 527⟩, ⟨47, 47, [.save_host, .markh], 513⟩,
    ⟨48, 52, [], 526⟩, ⟨53, 53, [], 537⟩, ⟨54, 57, [], 526⟩, ⟨58, 58, [.save_host], 514⟩,
    ⟨59, 59, [], 523⟩, ⟨61, 61, [], 523⟩, ⟨63, 63, [.save_host, .markh, .save_path], 456⟩,
    ⟨65, 90, [], 523⟩, ⟨95, 95, [], 523⟩, ⟨97, 122, [], 523⟩, ⟨126, 126, [], 523⟩],
   [⟨33, 33, [], 523⟩, ⟨35, 35, [.save_host, .markh, .save_path], 453⟩, ⟨36, 36, [], 523⟩,
    ⟨37, 37, [], 258⟩, ⟨38, 45, [], 523⟩, ⟨46, 46, [], 527⟩, ⟨47, 47, [.save_host, .markh], 513⟩,
    ⟨48, 53, [], 526⟩, ⟨54, 57, [], 523⟩, ⟨58, 58, [.save_host], 514⟩, ⟨59, 59, [], 523⟩,
    ⟨61, 61, [], 523⟩, ⟨63, 63, [.save_host, .markh, .save_path], 456⟩, ⟨65, 90, [], 523⟩,
    ⟨95, 95, [], 523⟩, ⟨97, 122, [], 523⟩, ⟨126, 126, [], 523⟩],
   [⟨33, 33, [], 523⟩, ⟨35, 35, [.save_host, .markh, .save_path], 453⟩, ⟨36, 36, [], 523⟩,
    ⟨37, 37, [], 258⟩, ⟨38, 45, [], 523⟩, ⟨46, 46, [], 525⟩, ⟨47, 47, [.save_host, .markh], 513⟩,
    ⟨48, 57, [], 539⟩, ⟨58, 58, [.save_host], 514⟩, ⟨59, 59, [], 523⟩, ⟨61, 61, [], 523⟩,
    ⟨63, 63, [.save_host, .markh, .save_path], 456⟩, ⟨65, 90, [], 523⟩, ⟨95, 95, [], 523⟩,
    ⟨97, 122, [], 523⟩, ⟨126, 126, [], 523⟩],
   [⟨33, 33, [], 523⟩, ⟨35, 35, [.save_host, .markh, .save_path], 453⟩, ⟨36, 36, [], 523⟩,
    ⟨37, 37, [], 258⟩, ⟨38, 45, [], 523⟩, ⟨46, 46, [], 525⟩, ⟨47, 47, [.save_host, .markh], 513⟩,
    ⟨48, 57, [], 524⟩, ⟨58, 58, [.save_host], 514⟩, ⟨59, 59, [], 523⟩, ⟨61, 61, [], 523⟩,
    ⟨63, 63, [.save_host, .markh, .save_path], 456⟩, ⟨65, 90, [], 523⟩, ⟨95, 95, [], 523⟩,
    ⟨97, 122, [], 523⟩, ⟨126, 126, [], 523⟩]],
  [[⟨33, 33, [], 523⟩, ⟨35, 35, [.save_host, .markh, .save_path], 453⟩, ⟨36, 36, [], 523⟩,
    ⟨37, 37, [], 258⟩, ⟨38, 45, [], 523⟩, ⟨46, 46, [], 525⟩, ⟨47, 47, [.save_host, .markh], 513⟩,
    ⟨48, 52, [], 524⟩, ⟨53, 53, [], 541⟩, ⟨54, 57, [], 524⟩, ⟨58, 58, [.save_host], 514⟩,
    ⟨59, 59, [], 523⟩, ⟨61, 61, [], 523⟩, ⟨63, 63, [.save_host, .markh, .save_path], 456⟩,
    ⟨65, 90, [], 523⟩, ⟨95, 95, [], 523⟩, ⟨97, 122, [], 523⟩, ⟨126, 126, [], 523⟩],
   [⟨33, 33, [], 523⟩, ⟨35, 35, [.save_host, .markh, .save_path], 453⟩, ⟨36, 36, [], 523⟩,
    ⟨37, 37, [], 258⟩, ⟨38, 45, [], 523⟩, ⟨46, 46, [], 525⟩, ⟨47, 47, [.save_host, .markh], 513⟩,
    ⟨48, 53, [], 524⟩, ⟨54, 57, [], 523⟩, ⟨58, 58, [.save_host], 514⟩, ⟨59, 59, [], 523⟩,
    ⟨61, 61, [], 523⟩, ⟨63, 63, [.save_host, .markh, .save_path], 456⟩, ⟨65, 90, [], 523⟩,
    ⟨95, 95, [], 523⟩, ⟨97, 122, [], 523⟩, ⟨126, 126, [], 523⟩],
   [⟨33, 33, [], 255⟩, ⟨35, 35, [.save_port, .markh, .save_path], 453⟩, ⟨36, 36, [], 255⟩,
    ⟨37, 37, [], 256⟩, ⟨38, 46, [], 255⟩, ⟨47, 47, [.save_port, .markh], 513⟩, ⟨48, 57, [], 542⟩,
    ⟨58, 59, [], 255⟩, ⟨61, 61, [], 255⟩, ⟨63, 63, [.save_port, .markh, .save_path], 456⟩,
    ⟨64, 64, [.save_userinfo], 522⟩, ⟨65, 90, [], 255⟩, ⟨95, 95, [], 255⟩, ⟨97, 122, [], 255⟩,
    ⟨126, 126, [], 255⟩],
   [⟨33, 33, [], 520⟩, ⟨35, 35, [.save_host, .markh, .save_path], 453⟩, ⟨36, 36, [], 520⟩,
    ⟨37, 37, [], 253⟩, ⟨38, 45, [], 520⟩, ⟨46, 46, [], 544⟩, ⟨47, 47, [.save_host, .markh], 513⟩,
    ⟨48, 57, [], 520⟩, ⟨58, 58, [.save_host], 521⟩, ⟨59, 59, [], 520⟩, ⟨61, 61, [], 520⟩,
    ⟨63, 63, [.save_host, .markh, .save_path], 456⟩, ⟨64, 64, [.save_userinfo], 522⟩,
    ⟨65, 90, [], 520⟩, ⟨95, 95, [], 520⟩, ⟨97, 122, [], 520⟩, ⟨126, 126, [], 520⟩],
   [⟨2, 2, [], 233⟩, ⟨33, 33, [], 520⟩, ⟨35, 35, [.save_host, .markh, .save_path], 453⟩,
    ⟨36, 36, [], 520⟩, ⟨37, 37, [], 253⟩, ⟨38, 46, [], 520⟩, ⟨47, 47, [.save_host, .markh], 513⟩,
    ⟨48, 48, [], 545⟩, ⟨49, 49, [], 553⟩, ⟨50, 50, [], 555⟩, ⟨51, 57, [], 554⟩,
    ⟨58, 58, [.save_host], 521⟩, ⟨59, 59, [], 520⟩, ⟨61, 61, [], 520⟩,
    ⟨63, 63, [.save_host, .markh, .save_path], 456⟩, ⟨64, 64, [.save_userinfo], 522⟩,
    ⟨65, 90, [], 520⟩, ⟨95, 95, [], 520⟩, ⟨97, 122, [], 520⟩, ⟨126, 126, [], 520⟩],
   [⟨33, 33, [], 520⟩, ⟨35, 35, [.save_host, .markh, .save_path], 453⟩, ⟨36, 36, [], 520⟩,
    ⟨37, 37, [], 253⟩, ⟨38, 45, [], 520⟩, ⟨46, 46, [], 546⟩, ⟨47, 47, [.save_host, .markh], 513⟩,
    ⟨48, 57, [], 520⟩, ⟨58, 58, [.save_host], 521⟩, ⟨59, 59, [], 520⟩, ⟨61, 61, [], 520⟩,
    ⟨63, 63, [.save_host, .markh, .save_path], 456⟩, ⟨64, 64, [.save_userinfo], 522⟩,
    ⟨65, 90, [], 520⟩, ⟨95, 95, [], 520⟩, ⟨97, 122, [], 520⟩, ⟨126, 126, [], 520⟩],
   [⟨2, 2, [], 237⟩, ⟨33, 33, [], 520⟩, ⟨35, 35, [.save_host, .markh, .save_path], 453⟩,
    ⟨36, 36, [], 520⟩, ⟨37, 37, [], 253⟩, ⟨38, 46, [], 520⟩, ⟨47, 47, [.save_host, .markh], 513⟩,
    ⟨48, 48, [], 547⟩, ⟨49, 49, [], 549⟩, ⟨50, 50, [], 551⟩, ⟨51, 57, [], 550⟩,
    ⟨58, 58, [.save_host], 521⟩, ⟨59, 59, [], 520⟩, ⟨61, 61, [], 520⟩,
    ⟨63, 63, [.save_host, .markh, .save_path], 456⟩, ⟨64, 64, [.save_userinfo], 522⟩,
    ⟨65, 90, [], 520⟩, ⟨95, 95, [], 520⟩, ⟨97, 122, [], 520⟩, ⟨126, 126, [], 520⟩],
   [⟨33, 33, [], 520⟩, ⟨35, 35, [.save_host, .markh, .save_path], 453⟩, ⟨36, 36, [], 520⟩,
    ⟨37, 37, [], 253⟩, ⟨38, 45, [], 520⟩, ⟨46, 46, [], 548⟩, ⟨47, 47, [.save_host, .markh], 513⟩,
    ⟨48, 57, [], 520⟩, ⟨58, 58, [.save_host], 521⟩, ⟨59, 59, [], 520⟩, ⟨61, 61, [], 520⟩,
    ⟨63, 63, [.save_host, .markh, .save_path], 456⟩, ⟨64, 64, [.save_userinfo], 522⟩,
    ⟨65, 90, [], 520⟩, ⟨95, 95, [], 520⟩, ⟨97, 122, [], 520⟩, ⟨126, 126, [], 520⟩],
   [⟨2, 2, [], 241⟩, ⟨33, 33, [], 520⟩, ⟨35, 35, [.save_host, .markh, .save_path], 453⟩,
    ⟨36, 36, [], 520⟩, ⟨37, 37, [], 253⟩, ⟨38, 46, [], 520⟩, ⟨47, 47, [.save_host, .markh], 513⟩,
    ⟨48, 57, [], 520⟩, ⟨58, 58, [.save_host], 521⟩, ⟨59, 59, [], 520⟩, ⟨61, 61, [], 520⟩,
    ⟨63, 63, [.save_host, .markh, .save_path], 456⟩, ⟨64, 64, [.save_userinfo], 522⟩,
    ⟨65, 90, [], 520⟩, ⟨95, 95, [], 520⟩, ⟨97, 122, [], 520⟩, ⟨126, 126, [], 520⟩],
   [⟨33, 33, [], 520⟩, ⟨35, 35, [.save_host, .markh, .save_path], 453⟩, ⟨36, 36, [], 520⟩,
    ⟨37, 37, [], 253⟩, ⟨38, 45, [], 520⟩, ⟨46, 46, [], 548⟩, ⟨47, 47, [.save_host, .markh], 513⟩,
    ⟨48, 57, [], 550⟩, ⟨58, 58, [.save_host], 521⟩, ⟨59, 59, [], 520⟩, ⟨61, 61, [], 520⟩,
    ⟨63, 63, [.save_host, .markh, .save_path], 456⟩, ⟨64, 64, [.save_userinfo], 522⟩,
    ⟨65, 90, [], 520⟩, ⟨95, 95, [], 520⟩, ⟨97, 122, [], 520⟩, ⟨126, 126, [], 520⟩]],
  [[⟨33, 33, [], 520⟩, ⟨35, 35, [.save_host, .markh, .save_path], 453⟩, ⟨36, 36, [], 520⟩,
    ⟨37, 37, [], 253⟩, ⟨38, 45, [], 520⟩, ⟨46, 46, [], 548⟩, ⟨47, 47, [.save_host, .markh], 513⟩,
    ⟨48, 57, [], 547⟩, ⟨58, 58, [.save_host], 521⟩, ⟨59, 59, [], 520⟩, ⟨61, 61, [], 520⟩,
    ⟨63, 63, [.save_host, .markh, .save_path], 456⟩, ⟨64, 64, [.save_userinfo], 522⟩,
    ⟨65, 90, [], 520⟩, ⟨95, 95, [], 520⟩, ⟨97, 122, [], 520⟩, ⟨126, 126, [], 520⟩],
   [⟨33, 33, [], 520⟩, ⟨35, 35, [.save_host, .markh, .save_path], 453⟩, ⟨36, 36, [], 520⟩,
    ⟨37, 37, [], 253⟩, ⟨38, 45, [], 520⟩, ⟨46, 46, [], 548⟩, ⟨47, 47, [.save_host, .markh], 513⟩,
    ⟨48, 52, [], 547⟩, ⟨53, 53, [], 552⟩, ⟨54, 57, [], 547⟩, ⟨58, 58, [.save_host], 521⟩,
    ⟨59, 59, [], 520⟩, ⟨61, 61, [], 520⟩, ⟨63, 63, [.save_host, .markh, .save_path], 456⟩,
    ⟨64, 64, [.save_userinfo], 522⟩, ⟨65, 90, [], 520⟩, ⟨95, 95, [], 520⟩, ⟨97, 122, [], 520⟩,
    ⟨126, 126, [], 520⟩],
   [⟨33, 33, [], 520⟩, ⟨35, 35, [.save_host, .markh, .save_path], 453⟩, ⟨36, 36, [], 520⟩,
    ⟨37, 37, [], 253⟩, ⟨38, 45, [], 520⟩, ⟨46, 46, [], 548⟩, ⟨47, 47, [.save_host, .markh], 513⟩,
    ⟨48, 53, [], 547⟩, ⟨54, 57, [], 520⟩, ⟨58, 58, [.save_host], 521⟩, ⟨59, 59, [], 520⟩,
    ⟨61, 61, [], 520⟩, ⟨63, 63, [.save_host, .markh, .save_path], 456⟩,
    ⟨64, 64, [.save_userinfo], 522⟩, ⟨65, 90, [], 520⟩, ⟨95, 95, [], 520⟩, ⟨97, 122, [], 520⟩,
    ⟨126, 126, [], 520⟩],
   [⟨33, 33, [], 520⟩, ⟨35, 35, [.save_host, .markh, .save_path], 453⟩, ⟨36, 36, [], 520⟩,
    ⟨37, 37, [], 253⟩, ⟨38, 45, [], 520⟩, ⟨46, 46, [], 546⟩, ⟨47, 47, [.save_host, .markh], 513⟩,
    ⟨48, 57, [], 554⟩, ⟨58, 58, [.save_host], 521⟩, ⟨59, 59, [], 520⟩, ⟨61, 61, [], 520⟩,
    ⟨63, 63, [.save_host, .markh, .save_path], 456⟩, ⟨64, 64, [.save_userinfo], 522⟩,
    ⟨65, 90, [], 520⟩, ⟨95, 95, [], 520⟩, ⟨97, 122, [], 520⟩, ⟨126, 126, [], 520⟩],
   [⟨33, 33, [], 520⟩, ⟨35, 35, [.save_host, .markh, .save_path], 453⟩, ⟨36, 36, [], 520⟩,
    ⟨37, 37, [], 253⟩, ⟨38, 45, [], 520⟩, ⟨46, 46, [], 546⟩, ⟨47, 47, [.save_host, .markh], 513⟩,
    ⟨48, 57, [], 545⟩, ⟨58, 58, [.save_host], 521⟩, ⟨59, 59, [], 520⟩, ⟨61, 61, [], 520⟩,
    ⟨63, 63, [.save_host, .markh, .save_path], 456⟩, ⟨64, 64, [.save_userinfo], 522⟩,
    ⟨65, 90, [], 520⟩, ⟨95, 95, [], 520⟩, ⟨97, 122, [], 520⟩, ⟨126, 126, [], 520⟩],
   [⟨33, 33, [], 520⟩, ⟨35, 35, [.save_host, .markh, .save_path], 453⟩, ⟨36, 36, [], 520⟩,
    ⟨37, 37, [], 253⟩, ⟨38, 45, [], 520⟩, ⟨46, 46, [], 546⟩, ⟨47, 47, [.save_host, .markh], 513⟩,
    ⟨48, 52, [], 545⟩, ⟨53, 53, [], 556⟩, ⟨54, 57, [], 545⟩, ⟨58, 58, [.save_host], 521⟩,
    ⟨59, 59, [], 520⟩, ⟨61, 61, [], 520⟩, ⟨63, 63, [.save_host, .markh, .save_path], 456⟩,
    ⟨64, 64, [.save_userinfo], 522⟩, ⟨65, 90, [], 520⟩, ⟨95, 95, [], 520⟩, ⟨97, 122, [], 520⟩,
    ⟨126, 126, [], 520⟩],
   [⟨33, 33, [], 520⟩, ⟨35, 35, [.save_host, .markh, .save_path], 453⟩, ⟨36, 36, [], 520⟩,
    ⟨37, 37, [], 253⟩, ⟨38, 45, [], 520⟩, ⟨46, 46, [], 546⟩, ⟨47, 47, [.save_host, .markh], 513⟩,
    ⟨48, 53, [], 545⟩, ⟨54, 57, [], 520⟩, ⟨58, 58, [.save_host], 521⟩, ⟨59, 59, [], 520⟩,
    ⟨61, 61, [], 520⟩, ⟨63, 63, [.save_host, .markh, .save_path], 456⟩,
    ⟨64, 64, [.save_userinfo], 522⟩, ⟨65, 90, [], 520⟩, ⟨95, 95, [], 520⟩, ⟨97, 122, [], 520⟩,
    ⟨126, 126, [], 520⟩],
   [⟨33, 33, [], 520⟩, ⟨35, 35, [.save_host, .markh, .save_path], 453⟩, ⟨36, 36, [], 520⟩,
    ⟨37, 37, [], 253⟩, ⟨38, 45, [], 520⟩, ⟨46, 46, [], 544⟩, ⟨47, 47, [.save_host, .markh], 513⟩,
    ⟨48, 57, [], 558⟩, ⟨58, 58, [.save_host], 521⟩, ⟨59, 59, [], 520⟩, ⟨61, 61, [], 520⟩,
    ⟨63, 63, [.save_host, .markh, .save_path], 456⟩, ⟨64, 64, [.save_userinfo], 522⟩,
    ⟨65, 90, [], 520⟩, ⟨95, 95, [], 520⟩, ⟨97, 122, [], 520⟩, ⟨126, 126, [], 520⟩],
   [⟨33, 33, [], 520⟩, ⟨35, 35, [.save_host, .markh, .save_path], 453⟩, ⟨36, 36, [], 520⟩,
    ⟨37, 37, [], 253⟩, ⟨38, 45, [], 520⟩, ⟨46, 46, [], 544⟩, ⟨47, 47, [.save_host, .markh], 513⟩,
    ⟨48, 57, [], 543⟩, ⟨58, 58, [.save_host], 521⟩, ⟨59, 59, [], 520⟩, ⟨61, 61, [], 520⟩,
    ⟨63, 63, [.save_host, .markh, .save_path], 456⟩, ⟨64, 64, [.save_userinfo], 522⟩,
    ⟨65, 90, [], 520⟩, ⟨95, 95, [], 520⟩, ⟨97, 122, [], 520⟩, ⟨126, 126, [], 520⟩],
   [⟨33, 33, [], 520⟩, ⟨35, 35, [.save_host, .markh, .save_path], 453⟩, ⟨36, 36, [], 520⟩,
    ⟨37, 37, [], 253⟩, ⟨38, 45, [], 520⟩, ⟨46, 46, [], 544⟩, ⟨47, 47, [.save_host, .markh], 513⟩,
    ⟨48, 52, [], 543⟩, ⟨53, 53, [], 560⟩, ⟨54, 57, [], 543⟩, ⟨58, 58, [.save_host], 521⟩,
    ⟨59, 59, [], 520⟩, ⟨61, 61, [], 520⟩, ⟨63, 63, [.save_host, .markh, .save_path], 456⟩,
    ⟨64, 64, [.save_userinfo], 522⟩, ⟨65, 90, [], 520⟩, ⟨95, 95, [], 520⟩, ⟨97, 122, [], 520⟩,
    ⟨126, 126, [], 520⟩]],
  [[⟨33, 33, [], 520⟩, ⟨35, 35, [.save_host, .markh, .save_path], 453⟩, ⟨36, 36, [], 520⟩,
    ⟨37, 37, [], 253⟩, ⟨38, 45, [], 520⟩, ⟨46, 46, [], 544⟩, ⟨47, 47, [.save_host, .markh], 513⟩,
    ⟨48, 53, [], 543⟩, ⟨54, 57, [], 520⟩, ⟨58, 58, [.save_host], 521⟩, ⟨59, 59, [], 520⟩,
    ⟨61, 61, [], 520⟩, ⟨63, 63, [.save_host, .markh, .save_path], 456⟩,
    ⟨64, 64, [.save_userinfo], 522⟩, ⟨65, 90, [], 520⟩, ⟨95, 95, [], 520⟩, ⟨97, 122, [], 520⟩,
    ⟨126, 126, [], 520⟩]]]

/-- The ranges of bytes that a state accepts. -/
def row (cs : ℕ) : List (Edge Action) :=
  let hundreds := [states0, states100, states200, states300, states400, states500]
  ((hundreds.getD (cs / 100) []).getD (cs / 10 % 10) []).getD (cs % 10) []

/-! ## The end of the string -/

def eofs : List (List ℕ × List Action) :=
  [([462, 489], [.save_port]),
   ([460, 463, 464, 465, 466, 467, 470, 471, 472, 473, 474, 475, 476, 477, 478, 479, 480, 481,
     482, 483, 484, 485, 486, 487, 488, 490, 491, 492, 493, 494, 495, 496, 497, 498, 499, 500,
     501, 502, 503, 504, 505, 506, 507], [.save_host]),
   ([513], [.save_path]),
   ([457], [.save_query]),
   ([454], [.save_fragment]),
   ([456], [.marku, .save_query]),
   ([453], [.marku, .save_fragment]),
   ([461, 468], [.markh, .save_port]),
   ([459, 469], [.markh, .save_host]),
   ([514, 521], [.markh, .save_port, .save_path]),
   ([511, 522], [.markh, .save_host, .save_path]),
   ([515, 542], [.save_port, .markh, .save_path]),
   ([512, 516, 517, 518, 519, 520, 523, 524, 525, 526, 527, 528, 529, 530, 531, 532, 533, 534,
     535, 536, 537, 538, 539, 540, 541, 543, 544, 545, 546, 547, 548, 549, 550, 551, 552, 553,
     554, 555, 556, 557, 558, 559, 560], [.save_host, .markh, .save_path])]

def eofActions (cs : ℕ) : List Action := ((eofs.find? fun x => cs ∈ x.1).map (·.2)).getD []

def start : ℕ := 451

def first_final : ℕ := 451

/-- The state after an error. -/
def error : ℕ := 0

/-- The machine `uri_parser`; no action stops it. -/
def machine : Scanner Action where
  next cs c := Edge.lookup (row cs) c
  stops _ := false

end Ancfl.UriParser
