/-
  The transition table of the response parser, as generated from the grammar.

  * `Action`: the actions of the grammar, under its names;
  * `rows`: for each state the ranges of bytes it accepts, with the actions in
    the order in which they are performed and the next state.
-/
import Ancfl.Lib.Scanner

namespace Ancfl.Http.HttpclientParser

open Lib

/-- The actions of the machine `httpclient_parser`. -/
inductive Action where
  | mark | start_field | write_field | start_value | write_content_len | write_connection_close
  | write_value | reason_phrase | status_code | http_version | chunk_size | trans_chunked | done
deriving DecidableEq

/-! ## The states -/

/-- The states 0 to 39. -/
def states0 : List (List (Edge Action)) := [
  [],
  [⟨48, 57, [.mark], 2⟩, ⟨65, 70, [.mark], 2⟩, ⟨72, 72, [.mark], 8⟩, ⟨97, 102, [.mark], 2⟩],
  [⟨10, 10, [.chunk_size, .done], 120⟩, ⟨13, 13, [.chunk_size], 3⟩, ⟨48, 57, [], 2⟩,
   ⟨59, 59, [.chunk_size], 4⟩, ⟨65, 70, [], 2⟩, ⟨97, 102, [], 2⟩],
  [⟨10, 10, [.done], 120⟩],
  [⟨33, 33, [.start_field], 5⟩, ⟨35, 39, [.start_field], 5⟩, ⟨42, 43, [.start_field], 5⟩,
   ⟨45, 46, [.start_field], 5⟩, ⟨48, 57, [.start_field], 5⟩, ⟨65, 90, [.start_field], 5⟩,
   ⟨94, 122, [.start_field], 5⟩, ⟨124, 124, [.start_field], 5⟩, ⟨126, 126, [.start_field], 5⟩],
  [⟨10, 10, [.write_field, .start_value, .write_value, .done], 120⟩,
   ⟨13, 13, [.write_field, .start_value, .write_value], 3⟩, ⟨33, 33, [], 5⟩, ⟨35, 39, [], 5⟩,
   ⟨42, 43, [], 5⟩, ⟨45, 46, [], 5⟩, ⟨48, 57, [], 5⟩,
   ⟨59, 59, [.write_field, .start_value, .write_value], 4⟩,
   ⟨61, 61, [.write_field, .start_value], 6⟩, ⟨65, 90, [], 5⟩, ⟨94, 122, [], 5⟩,
   ⟨124, 124, [], 5⟩, ⟨126, 126, [], 5⟩],
  [⟨33, 33, [.start_value], 7⟩, ⟨35, 39, [.start_value], 7⟩, ⟨42, 43, [.start_value], 7⟩,
   ⟨45, 46, [.start_value], 7⟩, ⟨48, 57, [.start_value], 7⟩, ⟨65, 90, [.start_value], 7⟩,
   ⟨94, 122, [.start_value], 7⟩, ⟨124, 124, [.start_value], 7⟩, ⟨126, 126, [.start_value], 7⟩],
  [⟨10, 10, [.write_value, .done], 120⟩, ⟨13, 13, [.write_value], 3⟩, ⟨33, 33, [], 7⟩,
   ⟨35, 39, [], 7⟩, ⟨42, 43, [], 7⟩, ⟨45, 46, [], 7⟩, ⟨48, 57, [], 7⟩,
   ⟨59, 59, [.write_value], 4⟩, ⟨65, 90, [], 7⟩, ⟨94, 122, [], 7⟩, ⟨124, 124, [], 7⟩,
   ⟨126, 126, [], 7⟩],
  [⟨84, 84, [], 9⟩],
  [⟨84, 84, [], 10⟩],
  [⟨80, 80, [], 11⟩],
  [⟨47, 47, [], 12⟩],
  [⟨48, 57, [], 13⟩],
  [⟨46, 46, [], 14⟩, ⟨48, 57, [], 13⟩],
  [⟨48, 57, [], 15⟩],
  [⟨32, 32, [.http_version], 16⟩, ⟨48, 57, [], 15⟩],
  [⟨48, 57, [.mark], 17⟩],
  [⟨32, 32, [.status_code], 18⟩, ⟨48, 57, [], 17⟩],
  [⟨0, 9, [.mark], 19⟩, ⟨11, 255, [.mark], 19⟩],
  [⟨0, 9, [], 19⟩, ⟨10, 10, [.reason_phrase], 20⟩, ⟨11, 12, [], 19⟩,
   ⟨13, 13, [.reason_phrase], 24⟩, ⟨14, 255, [], 19⟩],
  [⟨10, 10, [.done], 120⟩, ⟨13, 13, [], 3⟩, ⟨33, 33, [.start_field], 21⟩,
   ⟨35, 39, [.start_field], 21⟩, ⟨42, 43, [.start_field], 21⟩, ⟨45, 46, [.start_field], 21⟩,
   ⟨48, 57, [.start_field], 21⟩, ⟨65, 66, [.start_field], 21⟩, ⟨67, 67, [.start_field], 25⟩,
   ⟨68, 83, [.start_field], 21⟩, ⟨84, 84, [.start_field], 44⟩, ⟨85, 90, [.start_field], 21⟩,
   ⟨94, 98, [.start_field], 21⟩, ⟨99, 99, [.start_field], 25⟩, ⟨100, 115, [.start_field], 21⟩,
   ⟨116, 116, [.start_field], 44⟩, ⟨117, 122, [.start_field], 21⟩, ⟨124, 124, [.start_field], 21⟩,
   ⟨126, 126, [.start_field], 21⟩],
  [⟨33, 33, [], 21⟩, ⟨35, 39, [], 21⟩, ⟨42, 43, [], 21⟩, ⟨45, 46, [], 21⟩, ⟨48, 57, [], 21⟩,
   ⟨58, 58, [.write_field], 22⟩, ⟨65, 90, [], 21⟩, ⟨94, 122, [], 21⟩, ⟨124, 124, [], 21⟩,
   ⟨126, 126, [], 21⟩],
  [⟨0, 8, [.start_value], 23⟩, ⟨9, 9, [.start_value], 22⟩,
   ⟨10, 10, [.start_value, .write_value], 20⟩, ⟨11, 12, [.start_value], 22⟩,
   ⟨13, 13, [.start_value, .write_value], 24⟩, ⟨14, 31, [.start_value], 23⟩,
   ⟨32, 32, [.start_value], 22⟩, ⟨33, 255, [.start_value], 23⟩],
  [⟨0, 9, [], 23⟩, ⟨10, 10, [.write_value], 20⟩, ⟨11, 12, [], 23⟩, ⟨13, 13, [.write_value], 24⟩,
   ⟨14, 255, [], 23⟩],
  [⟨10, 10, [], 20⟩],
  [⟨33, 33, [], 21⟩, ⟨35, 39, [], 21⟩, ⟨42, 43, [], 21⟩, ⟨45, 46, [], 21⟩, ⟨48, 57, [], 21⟩,
   ⟨58, 58, [.write_field], 22⟩, ⟨65, 78, [], 21⟩, ⟨79, 79, [], 26⟩, ⟨80, 90, [], 21⟩,
   ⟨94, 110, [], 21⟩, ⟨111, 111, [], 26⟩, ⟨112, 122, [], 21⟩, ⟨124, 124, [], 21⟩,
   ⟨126, 126, [], 21⟩],
  [⟨33, 33, [], 21⟩, ⟨35, 39, [], 21⟩, ⟨42, 43, [], 21⟩, ⟨45, 46, [], 21⟩, ⟨48, 57, [], 21⟩,
   ⟨58, 58, [.write_field], 22⟩, ⟨65, 77, [], 21⟩, ⟨78, 78, [], 27⟩, ⟨79, 90, [], 21⟩,
   ⟨94, 109, [], 21⟩, ⟨110, 110, [], 27⟩, ⟨111, 122, [], 21⟩, ⟨124, 124, [], 21⟩,
   ⟨126, 126, [], 21⟩],
  [⟨33, 33, [], 21⟩, ⟨35, 39, [], 21⟩, ⟨42, 43, [], 21⟩, ⟨45, 46, [], 21⟩, ⟨48, 57, [], 21⟩,
   ⟨58, 58, [.write_field], 22⟩, ⟨65, 77, [], 21⟩, ⟨78, 78, [], 28⟩, ⟨79, 83, [], 21⟩,
   ⟨84, 84, [], 101⟩, ⟨85, 90, [], 21⟩, ⟨94, 109, [], 21⟩, ⟨110, 110, [], 28⟩, ⟨111, 115, [], 21⟩,
   ⟨116, 116, [], 101⟩, ⟨117, 122, [], 21⟩, ⟨124, 124, [], 21⟩, ⟨126, 126, [], 21⟩],
  [⟨33, 33, [], 21⟩, ⟨35, 39, [], 21⟩, ⟨42, 43, [], 21⟩, ⟨45, 46, [], 21⟩, ⟨48, 57, [], 21⟩,
   ⟨58, 58, [.write_field], 22⟩, ⟨65, 68, [], 21⟩, ⟨69, 69, [], 29⟩, ⟨70, 90, [], 21⟩,
   ⟨94, 100, [], 21⟩, ⟨101, 101, [], 29⟩, ⟨102, 122, [], 21⟩, ⟨124, 124, [], 21⟩,
   ⟨126, 126, [], 21⟩],
  [⟨33, 33, [], 21⟩, ⟨35, 39, [], 21⟩, ⟨42, 43, [], 21⟩, ⟨45, 46, [], 21⟩, ⟨48, 57, [], 21⟩,
   ⟨58, 58, [.write_field], 22⟩, ⟨65, 66, [], 21⟩, ⟨67, 67, [], 30⟩, ⟨68, 90, [], 21⟩,
   ⟨94, 98, [], 21⟩, ⟨99, 99, [], 30⟩, ⟨100, 122, [], 21⟩, ⟨124, 124, [], 21⟩, ⟨126, 126, [], 21⟩],
  [⟨33, 33, [], 21⟩, ⟨35, 39, [], 21⟩, ⟨42, 43, [], 21⟩, ⟨45, 46, [], 21⟩, ⟨48, 57, [], 21⟩,
   ⟨58, 58, [.write_field], 22⟩, ⟨65, 83, [], 21⟩, ⟨84, 84, [], 31⟩, ⟨85, 90, [], 21⟩,
   ⟨94, 115, [], 21⟩, ⟨116, 116, [], 31⟩, ⟨117, 122, [], 21⟩, ⟨124, 124, [], 21⟩,
   ⟨126, 126, [], 21⟩],
  [⟨33, 33, [], 21⟩, ⟨35, 39, [], 21⟩, ⟨42, 43, [], 21⟩, ⟨45, 46, [], 21⟩, ⟨48, 57, [], 21⟩,
   ⟨58, 58, [.write_field], 22⟩, ⟨65, 72, [], 21⟩, ⟨73, 73, [], 32⟩, ⟨74, 90, [], 21⟩,
   ⟨94, 104, [], 21⟩, ⟨105, 105, [], 32⟩, ⟨106, 122, [], 21⟩, ⟨124, 124, [], 21⟩,
   ⟨126, 126, [], 21⟩],
  [⟨33, 33, [], 21⟩, ⟨35, 39, [], 21⟩, ⟨42, 43, [], 21⟩, ⟨45, 46, [], 21⟩, ⟨48, 57, [], 21⟩,
   ⟨58, 58, [.write_field], 22⟩, ⟨65, 78, [], 21⟩, ⟨79, 79, [], 33⟩, ⟨80, 90, [], 21⟩,
   ⟨94, 110, [], 21⟩, ⟨111, 111, [], 33⟩, ⟨112, 122, [], 21⟩, ⟨124, 124, [], 21⟩,
   ⟨126, 126, [], 21⟩],
  [⟨33, 33, [], 21⟩, ⟨35, 39, [], 21⟩, ⟨42, 43, [], 21⟩, ⟨45, 46, [], 21⟩, ⟨48, 57, [], 21⟩,
   ⟨58, 58, [.write_field], 22⟩, ⟨65, 77, [], 21⟩, ⟨78, 78, [], 34⟩, ⟨79, 90, [], 21⟩,
   ⟨94, 109, [], 21⟩, ⟨110, 110, [], 34⟩, ⟨111, 122, [], 21⟩, ⟨124, 124, [], 21⟩,
   ⟨126, 126, [], 21⟩],
  [⟨33, 33, [], 21⟩, ⟨35, 39, [], 21⟩, ⟨42, 43, [], 21⟩, ⟨45, 46, [], 21⟩, ⟨48, 57, [], 21⟩,
   ⟨58, 58, [.write_field], 35⟩, ⟨65, 90, [], 21⟩, ⟨94, 122, [], 21⟩, ⟨124, 124, [], 21⟩,
   ⟨126, 126, [], 21⟩],
  [⟨0, 8, [.start_value], 23⟩, ⟨9, 9, [.start_value], 35⟩,
   ⟨10, 10, [.start_value, .write_value], 36⟩, ⟨11, 12, [.start_value], 35⟩,
   ⟨13, 13, [.start_value, .write_value], 95⟩, ⟨14, 31, [.start_value], 23⟩,
   ⟨32, 32, [.start_value], 35⟩, ⟨33, 66, [.start_value], 23⟩, ⟨67, 67, [.start_value], 96⟩,
   ⟨68, 98, [.start_value], 23⟩, ⟨99, 99, [.start_value], 96⟩, ⟨100, 255, [.start_value], 23⟩],
  [⟨9, 9, [], 37⟩, ⟨10, 10, [.done], 122⟩, ⟨11, 12, [], 37⟩, ⟨13, 13, [], 89⟩, ⟨32, 32, [], 37⟩,
   ⟨33, 33, [.start_field], 21⟩, ⟨35, 39, [.start_field], 21⟩, ⟨42, 43, [.start_field], 21⟩,
   ⟨45, 46, [.start_field], 21⟩, ⟨48, 57, [.start_field], 21⟩, ⟨65, 66, [.start_field], 21⟩,
   ⟨67, 67, [.start_field], 90⟩, ⟨68, 83, [.start_field], 21⟩, ⟨84, 84, [.start_field], 44⟩,
   ⟨85, 90, [.start_field], 21⟩, ⟨94, 98, [.start_field], 21⟩, ⟨99, 99, [.start_field], 90⟩,
   ⟨100, 115, [.start_field], 21⟩, ⟨116, 116, [.start_field], 44⟩, ⟨117, 122, [.start_field], 21⟩,
   ⟨124, 124, [.start_field], 21⟩, ⟨126, 126, [.start_field], 21⟩],
  [⟨9, 13, [], 37⟩, ⟨32, 32, [], 37⟩, ⟨67, 67, [], 38⟩, ⟨99, 99, [], 38⟩],
  [⟨76, 76, [], 39⟩, ⟨108, 108, [], 39⟩],
  [⟨79, 79, [], 40⟩, ⟨111, 111, [], 40⟩]]

/-- The states 40 to 79. -/
def states40 : List (List (Edge Action)) := [
  [⟨83, 83, [], 41⟩, ⟨115, 115, [], 41⟩],
  [⟨69, 69, [], 42⟩, ⟨101, 101, [], 42⟩],
  [⟨10, 10, [], 43⟩, ⟨13, 13, [], 88⟩],
  [⟨10, 10, [.write_connection_close, .done], 120⟩, ⟨13, 13, [.write_connection_close], 3⟩,
   ⟨33, 33, [.write_connection_close, .start_field], 21⟩,
   ⟨35, 39, [.write_connection_close, .start_field], 21⟩,
   ⟨42, 43, [.write_connection_close, .start_field], 21⟩,
   ⟨45, 46, [.write_connection_close, .start_field], 21⟩,
   ⟨48, 57, [.write_connection_close, .start_field], 21⟩,
   ⟨65, 66, [.write_connection_close, .start_field], 21⟩,
   ⟨67, 67, [.write_connection_close, .start_field], 25⟩,
   ⟨68, 83, [.write_connection_close, .start_field], 21⟩,
   ⟨84, 84, [.write_connection_close, .start_field], 44⟩,
   ⟨85, 90, [.write_connection_close, .start_field], 21⟩,
   ⟨94, 98, [.write_connection_close, .start_field], 21⟩,
   ⟨99, 99, [.write_connection_close, .start_field], 25⟩,
   ⟨100, 115, [.write_connection_close, .start_field], 21⟩,
   ⟨116, 116, [.write_connection_close, .start_field], 44⟩,
   ⟨117, 122, [.write_connection_close, .start_field], 21⟩,
   ⟨124, 124, [.write_connection_close, .start_field], 21⟩,
   ⟨126, 126, [.write_connection_close, .start_field], 21⟩],
  [⟨33, 33, [], 21⟩, ⟨35, 39, [], 21⟩, ⟨42, 43, [], 21⟩, ⟨45, 46, [], 21⟩, ⟨48, 57, [], 21⟩,
   ⟨58, 58, [.write_field], 22⟩, ⟨65, 81, [], 21⟩, ⟨82, 82, [], 45⟩, ⟨83, 90, [], 21⟩,
   ⟨94, 113, [], 21⟩, ⟨114, 114, [], 45⟩, ⟨115, 122, [], 21⟩, ⟨124, 124, [], 21⟩,
   ⟨126, 126, [], 21⟩],
  [⟨33, 33, [], 21⟩, ⟨35, 39, [], 21⟩, ⟨42, 43, [], 21⟩, ⟨45, 46, [], 21⟩, ⟨48, 57, [], 21⟩,
   ⟨58, 58, [.write_field], 22⟩, ⟨65, 65, [], 46⟩, ⟨66, 90, [], 21⟩, ⟨94, 96, [], 21⟩,
   ⟨97, 97, [], 46⟩, ⟨98, 122, [], 21⟩, ⟨124, 124, [], 21⟩, ⟨126, 126, [], 21⟩],
  [⟨33, 33, [], 21⟩, ⟨35, 39, [], 21⟩, ⟨42, 43, [], 21⟩, ⟨45, 46, [], 21⟩, ⟨48, 57, [], 21⟩,
   ⟨58, 58, [.write_field], 22⟩, ⟨65, 77, [], 21⟩, ⟨78, 78, [], 47⟩, ⟨79, 90, [], 21⟩,
   ⟨94, 109, [], 21⟩, ⟨110, 110, [], 47⟩, ⟨111, 122, [], 21⟩, ⟨124, 124, [], 21⟩,
   ⟨126, 126, [], 21⟩],
  [⟨33, 33, [], 21⟩, ⟨35, 39, [], 21⟩, ⟨42, 43, [], 21⟩, ⟨45, 46, [], 21⟩, ⟨48, 57, [], 21⟩,
   ⟨58, 58, [.write_field], 22⟩, ⟨65, 82, [], 21⟩, ⟨83, 83, [], 48⟩, ⟨84, 90, [], 21⟩,
   ⟨94, 114, [], 21⟩, ⟨115, 115, [], 48⟩, ⟨116, 122, [], 21⟩, ⟨124, 124, [], 21⟩,
   ⟨126, 126, [], 21⟩],
  [⟨33, 33, [], 21⟩, ⟨35, 39, [], 21⟩, ⟨42, 43, [], 21⟩, ⟨45, 46, [], 21⟩, ⟨48, 57, [], 21⟩,
   ⟨58, 58, [.write_field], 22⟩, ⟨65, 69, [], 21⟩, ⟨70, 70, [], 49⟩, ⟨71, 90, [], 21⟩,
   ⟨94, 101, [], 21⟩, ⟨102, 102, [], 49⟩, ⟨103, 122, [], 21⟩, ⟨124, 124, [], 21⟩,
   ⟨126, 126, [], 21⟩],
  [⟨33, 33, [], 21⟩, ⟨35, 39, [], 21⟩, ⟨42, 43, [], 21⟩, ⟨45, 46, [], 21⟩, ⟨48, 57, [], 21⟩,
   ⟨58, 58, [.write_field], 22⟩, ⟨65, 68, [], 21⟩, ⟨69, 69, [], 50⟩, ⟨70, 90, [], 21⟩,
   ⟨94, 100, [], 21⟩, ⟨101, 101, [], 50⟩, ⟨102, 122, [], 21⟩, ⟨124, 124, [], 21⟩,
   ⟨126, 126, [], 21⟩],
  [⟨33, 33, [], 21⟩, ⟨35, 39, [], 21⟩, ⟨42, 43, [], 21⟩, ⟨45, 46, [], 21⟩, ⟨48, 57, [], 21⟩,
   ⟨58, 58, [.write_field], 22⟩, ⟨65, 81, [], 21⟩, ⟨82, 82, [], 51⟩, ⟨83, 90, [], 21⟩,
   ⟨94, 113, [], 21⟩, ⟨114, 114, [], 51⟩, ⟨115, 122, [], 21⟩, ⟨124, 124, [], 21⟩,
   ⟨126, 126, [], 21⟩],
  [⟨33, 33, [], 21⟩, ⟨35, 39, [], 21⟩, ⟨42, 43, [], 21⟩, ⟨45, 45, [], 52⟩, ⟨46, 46, [], 21⟩,
   ⟨48, 57, [], 21⟩, ⟨58, 58, [.write_field], 22⟩, ⟨65, 90, [], 21⟩, ⟨94, 122, [], 21⟩,
   ⟨124, 124, [], 21⟩, ⟨126, 126, [], 21⟩],
  [⟨33, 33, [], 21⟩, ⟨35, 39, [], 21⟩, ⟨42, 43, [], 21⟩, ⟨45, 46, [], 21⟩, ⟨48, 57, [], 21⟩,
   ⟨58, 58, [.write_field], 22⟩, ⟨65, 68, [], 21⟩, ⟨69, 69, [], 53⟩, ⟨70, 90, [], 21⟩,
   ⟨94, 100, [], 21⟩, ⟨101, 101, [], 53⟩, ⟨102, 122, [], 21⟩, ⟨124, 124, [], 21⟩,
   ⟨126, 126, [], 21⟩],
  [⟨33, 33, [], 21⟩, ⟨35, 39, [], 21⟩, ⟨42, 43, [], 21⟩, ⟨45, 46, [], 21⟩, ⟨48, 57, [], 21⟩,
   ⟨58, 58, [.write_field], 22⟩, ⟨65, 77, [], 21⟩, ⟨78, 78, [], 54⟩, ⟨79, 90, [], 21⟩,
   ⟨94, 109, [], 21⟩, ⟨110, 110, [], 54⟩, ⟨111, 122, [], 21⟩, ⟨124, 124, [], 21⟩,
   ⟨126, 126, [], 21⟩],
  [⟨33, 33, [], 21⟩, ⟨35, 39, [], 21⟩, ⟨42, 43, [], 21⟩, ⟨45, 46, [], 21⟩, ⟨48, 57, [], 21⟩,
   ⟨58, 58, [.write_field], 22⟩, ⟨65, 66, [], 21⟩, ⟨67, 67, [], 55⟩, ⟨68, 90, [], 21⟩,
   ⟨94, 98, [], 21⟩, ⟨99, 99, [], 55⟩, ⟨100, 122, [], 21⟩, ⟨124, 124, [], 21⟩, ⟨126, 126, [], 21⟩],
  [⟨33, 33, [], 21⟩, ⟨35, 39, [], 21⟩, ⟨42, 43, [], 21⟩, ⟨45, 46, [], 21⟩, ⟨48, 57, [], 21⟩,
   ⟨58, 58, [.write_field], 22⟩, ⟨65, 78, [], 21⟩, ⟨79, 79, [], 56⟩, ⟨80, 90, [], 21⟩,
   ⟨94, 110, [], 21⟩, ⟨111, 111, [], 56⟩, ⟨112, 122, [], 21⟩, ⟨124, 124, [], 21⟩,
   ⟨126, 126, [], 21⟩],
  [⟨33, 33, [], 21⟩, ⟨35, 39, [], 21⟩, ⟨42, 43, [], 21⟩, ⟨45, 46, [], 21⟩, ⟨48, 57, [], 21⟩,
   ⟨58, 58, [.write_field], 22⟩, ⟨65, 67, [], 21⟩, ⟨68, 68, [], 57⟩, ⟨69, 90, [], 21⟩,
   ⟨94, 99, [], 21⟩, ⟨100, 100, [], 57⟩, ⟨101, 122, [], 21⟩, ⟨124, 124, [], 21⟩,
   ⟨126, 126, [], 21⟩],
  [⟨33, 33, [], 21⟩, ⟨35, 39, [], 21⟩, ⟨42, 43, [], 21⟩, ⟨45, 46, [], 21⟩, ⟨48, 57, [], 21⟩,
   ⟨58, 58, [.write_field], 22⟩, ⟨65, 72, [], 21⟩, ⟨73, 73, [], 58⟩, ⟨74, 90, [], 21⟩,
   ⟨94, 104, [], 21⟩, ⟨105, 105, [], 58⟩, ⟨106, 122, [], 21⟩, ⟨124, 124, [], 21⟩,
   ⟨126, 126, [], 21⟩],
  [⟨33, 33, [], 21⟩, ⟨35, 39, [], 21⟩, ⟨42, 43, [], 21⟩, ⟨45, 46, [], 21⟩, ⟨48, 57, [], 21⟩,
   ⟨58, 58, [.write_field], 22⟩, ⟨65, 77, [], 21⟩, ⟨78, 78, [], 59⟩, ⟨79, 90, [], 21⟩,
   ⟨94, 109, [], 21⟩, ⟨110, 110, [], 59⟩, ⟨111, 122, [], 21⟩, ⟨124, 124, [], 21⟩,
   ⟨126, 126, [], 21⟩],
  [⟨33, 33, [], 21⟩, ⟨35, 39, [], 21⟩, ⟨42, 43, [], 21⟩, ⟨45, 46, [], 21⟩, ⟨48, 57, [], 21⟩,
   ⟨58, 58, [.write_field], 22⟩, ⟨65, 70, [], 21⟩, ⟨71, 71, [], 60⟩, ⟨72, 90, [], 21⟩,
   ⟨94, 102, [], 21⟩, ⟨103, 103, [], 60⟩, ⟨104, 122, [], 21⟩, ⟨124, 124, [], 21⟩,
   ⟨126, 126, [], 21⟩],
  [⟨33, 33, [], 21⟩, ⟨35, 39, [], 21⟩, ⟨42, 43, [], 21⟩, ⟨45, 46, [], 21⟩, ⟨48, 57, [], 21⟩,
   ⟨58, 58, [.write_field], 61⟩, ⟨65, 90, [], 21⟩, ⟨94, 122, [], 21⟩, ⟨124, 124, [], 21⟩,
   ⟨126, 126, [], 21⟩],
  [⟨0, 8, [.start_value], 23⟩, ⟨9, 9, [.start_value], 61⟩,
   ⟨10, 10, [.start_value, .write_value], 62⟩, ⟨11, 12, [.start_value], 61⟩,
   ⟨13, 13, [.start_value, .write_value], 80⟩, ⟨14, 31, [.start_value], 23⟩,
   ⟨32, 32, [.start_value], 61⟩, ⟨33, 66, [.start_value], 23⟩, ⟨67, 67, [.start_value], 81⟩,
   ⟨68, 98, [.start_value], 23⟩, ⟨99, 99, [.start_value], 81⟩, ⟨100, 255, [.start_value], 23⟩],
  [⟨9, 9, [], 63⟩, ⟨10, 10, [.done], 121⟩, ⟨11, 12, [], 63⟩, ⟨13, 13, [], 72⟩, ⟨32, 32, [], 63⟩,
   ⟨33, 33, [.start_field], 21⟩, ⟨35, 39, [.start_field], 21⟩, ⟨42, 43, [.start_field], 21⟩,
   ⟨45, 46, [.start_field], 21⟩, ⟨48, 57, [.start_field], 21⟩, ⟨65, 66, [.start_field], 21⟩,
   ⟨67, 67, [.start_value, .start_field], 73⟩, ⟨68, 83, [.start_field], 21⟩,
   ⟨84, 84, [.start_field], 44⟩, ⟨85, 90, [.start_field], 21⟩, ⟨94, 98, [.start_field], 21⟩,
   ⟨99, 99, [.start_value, .start_field], 73⟩, ⟨100, 115, [.start_field], 21⟩,
   ⟨116, 116, [.start_field], 44⟩, ⟨117, 122, [.start_field], 21⟩, ⟨124, 124, [.start_field], 21⟩,
   ⟨126, 126, [.start_field], 21⟩],
  [⟨9, 13, [], 63⟩, ⟨32, 32, [], 63⟩, ⟨67, 67, [.start_value], 64⟩, ⟨99, 99, [.start_value], 64⟩],
  [⟨72, 72, [], 65⟩, ⟨104, 104, [], 65⟩],
  [⟨85, 85, [], 66⟩, ⟨117, 117, [], 66⟩],
  [⟨78, 78, [], 67⟩, ⟨110, 110, [], 67⟩],
  [⟨75, 75, [], 68⟩, ⟨107, 107, [], 68⟩],
  [⟨69, 69, [], 69⟩, ⟨101, 101, [], 69⟩],
  [⟨68, 68, [], 70⟩, ⟨100, 100, [], 70⟩],
  [⟨10, 10, [.write_value, .trans_chunked], 20⟩, ⟨13, 13, [.write_value], 71⟩],
  [⟨10, 10, [.trans_chunked], 20⟩],
  [⟨9, 9, [], 63⟩, ⟨10, 10, [.done], 121⟩, ⟨11, 13, [], 63⟩, ⟨32, 32, [], 63⟩,
   ⟨67, 67, [.start_value], 64⟩, ⟨99, 99, [.start_value], 64⟩],
  [⟨33, 33, [], 21⟩, ⟨35, 39, [], 21⟩, ⟨42, 43, [], 21⟩, ⟨45, 46, [], 21⟩, ⟨48, 57, [], 21⟩,
   ⟨58, 58, [.write_field], 22⟩, ⟨65, 71, [], 21⟩, ⟨72, 72, [], 74⟩, ⟨73, 78, [], 21⟩,
   ⟨79, 79, [], 26⟩, ⟨80, 90, [], 21⟩, ⟨94, 103, [], 21⟩, ⟨104, 104, [], 74⟩, ⟨105, 110, [], 21⟩,
   ⟨111, 111, [], 26⟩, ⟨112, 122, [], 21⟩, ⟨124, 124, [], 21⟩, ⟨126, 126, [], 21⟩],
  [⟨33, 33, [], 21⟩, ⟨35, 39, [], 21⟩, ⟨42, 43, [], 21⟩, ⟨45, 46, [], 21⟩, ⟨48, 57, [], 21⟩,
   ⟨58, 58, [.write_field], 22⟩, ⟨65, 84, [], 21⟩, ⟨85, 85, [], 75⟩, ⟨86, 90, [], 21⟩,
   ⟨94, 116, [], 21⟩, ⟨117, 117, [], 75⟩, ⟨118, 122, [], 21⟩, ⟨124, 124, [], 21⟩,
   ⟨126, 126, [], 21⟩],
  [⟨33, 33, [], 21⟩, ⟨35, 39, [], 21⟩, ⟨42, 43, [], 21⟩, ⟨45, 46, [], 21⟩, ⟨48, 57, [], 21⟩,
   ⟨58, 58, [.write_field], 22⟩, ⟨65, 77, [], 21⟩, ⟨78, 78, [], 76⟩, ⟨79, 90, [], 21⟩,
   ⟨94, 109, [], 21⟩, ⟨110, 110, [], 76⟩, ⟨111, 122, [], 21⟩, ⟨124, 124, [], 21⟩,
   ⟨126, 126, [], 21⟩],
  [⟨33, 33, [], 21⟩, ⟨35, 39, [], 21⟩, ⟨42, 43, [], 21⟩, ⟨45, 46, [], 21⟩, ⟨48, 57, [], 21⟩,
   ⟨58, 58, [.write_field], 22⟩, ⟨65, 74, [], 21⟩, ⟨75, 75, [], 77⟩, ⟨76, 90, [], 21⟩,
   ⟨94, 106, [], 21⟩, ⟨107, 107, [], 77⟩, ⟨108, 122, [], 21⟩, ⟨124, 124, [], 21⟩,
   ⟨126, 126, [], 21⟩],
  [⟨33, 33, [], 21⟩, ⟨35, 39, [], 21⟩, ⟨42, 43, [], 21⟩, ⟨45, 46, [], 21⟩, ⟨48, 57, [], 21⟩,
   ⟨58, 58, [.write_field], 22⟩, ⟨65, 68, [], 21⟩, ⟨69, 69, [], 78⟩, ⟨70, 90, [], 21⟩,
   ⟨94, 100, [], 21⟩, ⟨101, 101, [], 78⟩, ⟨102, 122, [], 21⟩, ⟨124, 124, [], 21⟩,
   ⟨126, 126, [], 21⟩],
  [⟨33, 33, [], 21⟩, ⟨35, 39, [], 21⟩, ⟨42, 43, [], 21⟩, ⟨45, 46, [], 21⟩, ⟨48, 57, [], 21⟩,
   ⟨58, 58, [.write_field], 22⟩, ⟨65, 67, [], 21⟩, ⟨68, 68, [], 79⟩, ⟨69, 90, [], 21⟩,
   ⟨94, 99, [], 21⟩, ⟨100, 100, [], 79⟩, ⟨101, 122, [], 21⟩, ⟨124, 124, [], 21⟩,
   ⟨126, 126, [], 21⟩],
  [⟨10, 10, [.write_value, .trans_chunked], 20⟩, ⟨13, 13, [.write_value], 71⟩, ⟨33, 33, [], 21⟩,
   ⟨35, 39, [], 21⟩, ⟨42, 43, [], 21⟩, ⟨45, 46, [], 21⟩, ⟨48, 57, [], 21⟩,
   ⟨58, 58, [.write_field], 22⟩, ⟨65, 90, [], 21⟩, ⟨94, 122, [], 21⟩, ⟨124, 124, [], 21⟩,
   ⟨126, 126, [], 21⟩]]

/-- The states 80 to 119. -/
def states80 : List (List (Edge Action)) := [
  [⟨9, 9, [], 63⟩, ⟨10, 10, [], 62⟩, ⟨11, 13, [], 63⟩, ⟨32, 32, [], 63⟩,
   ⟨67, 67, [.start_value], 64⟩, ⟨99, 99, [.start_value], 64⟩],
  [⟨0, 9, [], 23⟩, ⟨10, 10, [.write_value], 20⟩, ⟨11, 12, [], 23⟩, ⟨13, 13, [.write_value], 24⟩,
   ⟨14, 71, [], 23⟩, ⟨72, 72, [], 82⟩, ⟨73, 103, [], 23⟩, ⟨104, 104, [], 82⟩, ⟨105, 255, [], 23⟩],
  [⟨0, 9, [], 23⟩, ⟨10, 10, [.write_value], 20⟩, ⟨11, 12, [], 23⟩, ⟨13, 13, [.write_value], 24⟩,
   ⟨14, 84, [], 23⟩, ⟨85, 85, [], 83⟩, ⟨86, 116, [], 23⟩, ⟨117, 117, [], 83⟩, ⟨118, 255, [], 23⟩],
  [⟨0, 9, [], 23⟩, ⟨10, 10, [.write_value], 20⟩, ⟨11, 12, [], 23⟩, ⟨13, 13, [.write_value], 24⟩,
   ⟨14, 77, [], 23⟩, ⟨78, 78, [], 84⟩, ⟨79, 109, [], 23⟩, ⟨110, 110, [], 84⟩, ⟨111, 255, [], 23⟩],
  [⟨0, 9, [], 23⟩, ⟨10, 10, [.write_value], 20⟩, ⟨11, 12, [], 23⟩, ⟨13, 13, [.write_value], 24⟩,
   ⟨14, 74, [], 23⟩, ⟨75, 75, [], 85⟩, ⟨76, 106, [], 23⟩, ⟨107, 107, [], 85⟩, ⟨108, 255, [], 23⟩],
  [⟨0, 9, [], 23⟩, ⟨10, 10, [.write_value], 20⟩, ⟨11, 12, [], 23⟩, ⟨13, 13, [.write_value], 24⟩,
   ⟨14, 68, [], 23⟩, ⟨69, 69, [], 86⟩, ⟨70, 100, [], 23⟩, ⟨101, 101, [], 86⟩, ⟨102, 255, [], 23⟩],
  [⟨0, 9, [], 23⟩, ⟨10, 10, [.write_value], 20⟩, ⟨11, 12, [], 23⟩, ⟨13, 13, [.write_value], 24⟩,
   ⟨14, 67, [], 23⟩, ⟨68, 68, [], 87⟩, ⟨69, 99, [], 23⟩, ⟨100, 100, [], 87⟩, ⟨101, 255, [], 23⟩],
  [⟨0, 9, [], 23⟩, ⟨10, 10, [.write_value, .trans_chunked], 20⟩, ⟨11, 12, [], 23⟩,
   ⟨13, 13, [.write_value], 71⟩, ⟨14, 255, [], 23⟩],
  [⟨10, 10, [], 43⟩],
  [⟨9, 9, [], 37⟩, ⟨10, 10, [.done], 122⟩, ⟨11, 13, [], 37⟩, ⟨32, 32, [], 37⟩, ⟨67, 67, [], 38⟩,
   ⟨99, 99, [], 38⟩],
  [⟨33, 33, [], 21⟩, ⟨35, 39, [], 21⟩, ⟨42, 43, [], 21⟩, ⟨45, 46, [], 21⟩, ⟨48, 57, [], 21⟩,
   ⟨58, 58, [.write_field], 22⟩, ⟨65, 75, [], 21⟩, ⟨76, 76, [], 91⟩, ⟨77, 78, [], 21⟩,
   ⟨79, 79, [], 26⟩, ⟨80, 90, [], 21⟩, ⟨94, 107, [], 21⟩, ⟨108, 108, [], 91⟩, ⟨109, 110, [], 21⟩,
   ⟨111, 111, [], 26⟩, ⟨112, 122, [], 21⟩, ⟨124, 124, [], 21⟩, ⟨126, 126, [], 21⟩],
  [⟨33, 33, [], 21⟩, ⟨35, 39, [], 21⟩, ⟨42, 43, [], 21⟩, ⟨45, 46, [], 21⟩, ⟨48, 57, [], 21⟩,
   ⟨58, 58, [.write_field], 22⟩, ⟨65, 78, [], 21⟩, ⟨79, 79, [], 92⟩, ⟨80, 90, [], 21⟩,
   ⟨94, 110, [], 21⟩, ⟨111, 111, [], 92⟩, ⟨112, 122, [], 21⟩, ⟨124, 124, [], 21⟩,
   ⟨126, 126, [], 21⟩],
  [⟨33, 33, [], 21⟩, ⟨35, 39, [], 21⟩, ⟨42, 43, [], 21⟩, ⟨45, 46, [], 21⟩, ⟨48, 57, [], 21⟩,
   ⟨58, 58, [.write_field], 22⟩, ⟨65, 82, [], 21⟩, ⟨83, 83, [], 93⟩, ⟨84, 90, [], 21⟩,
   ⟨94, 114, [], 21⟩, ⟨115, 115, [], 93⟩, ⟨116, 122, [], 21⟩, ⟨124, 124, [], 21⟩,
   ⟨126, 126, [], 21⟩],
  [⟨33, 33, [], 21⟩, ⟨35, 39, [], 21⟩, ⟨42, 43, [], 21⟩, ⟨45, 46, [], 21⟩, ⟨48, 57, [], 21⟩,
   ⟨58, 58, [.write_field], 22⟩, ⟨65, 68, [], 21⟩, ⟨69, 69, [], 94⟩, ⟨70, 90, [], 21⟩,
   ⟨94, 100, [], 21⟩, ⟨101, 101, [], 94⟩, ⟨102, 122, [], 21⟩, ⟨124, 124, [], 21⟩,
   ⟨126, 126, [], 21⟩],
  [⟨10, 10, [], 43⟩, ⟨13, 13, [], 88⟩, ⟨33, 33, [], 21⟩, ⟨35, 39, [], 21⟩, ⟨42, 43, [], 21⟩,
   ⟨45, 46, [], 21⟩, ⟨48, 57, [], 21⟩, ⟨58, 58, [.write_field], 22⟩, ⟨65, 90, [], 21⟩,
   ⟨94, 122, [], 21⟩, ⟨124, 124, [], 21⟩, ⟨126, 126, [], 21⟩],
  [⟨9, 9, [], 37⟩, ⟨10, 10, [], 36⟩, ⟨11, 13, [], 37⟩, ⟨32, 32, [], 37⟩, ⟨67, 67, [], 38⟩,
   ⟨99, 99, [], 38⟩],
  [⟨0, 9, [], 23⟩, ⟨10, 10, [.write_value], 20⟩, ⟨11, 12, [], 23⟩, ⟨13, 13, [.write_value], 24⟩,
   ⟨14, 75, [], 23⟩, ⟨76, 76, [], 97⟩, ⟨77, 107, [], 23⟩, ⟨108, 108, [], 97⟩, ⟨109, 255, [], 23⟩],
  [⟨0, 9, [], 23⟩, ⟨10, 10, [.write_value], 20⟩, ⟨11, 12, [], 23⟩, ⟨13, 13, [.write_value], 24⟩,
   ⟨14, 78, [], 23⟩, ⟨79, 79, [], 98⟩, ⟨80, 110, [], 23⟩, ⟨111, 111, [], 98⟩, ⟨112, 255, [], 23⟩],
  [⟨0, 9, [], 23⟩, ⟨10, 10, [.write_value], 20⟩, ⟨11, 12, [], 23⟩, ⟨13, 13, [.write_value], 24⟩,
   ⟨14, 82, [], 23⟩, ⟨83, 83, [], 99⟩, ⟨84, 114, [], 23⟩, ⟨115, 115, [], 99⟩, ⟨116, 255, [], 23⟩],
  [⟨0, 9, [], 23⟩, ⟨10, 10, [.write_value], 20⟩, ⟨11, 12, [], 23⟩, ⟨13, 13, [.write_value], 24⟩,
   ⟨14, 68, [], 23⟩, ⟨69, 69, [], 100⟩, ⟨70, 100, [], 23⟩, ⟨101, 101, [], 100⟩,
   ⟨102, 255, [], 23⟩],
  [⟨0, 9, [], 23⟩, ⟨10, 10, [.write_value], 43⟩, ⟨11, 12, [], 23⟩, ⟨13, 13, [.write_value], 88⟩,
   ⟨14, 255, [], 23⟩],
  [⟨33, 33, [], 21⟩, ⟨35, 39, [], 21⟩, ⟨42, 43, [], 21⟩, ⟨45, 46, [], 21⟩, ⟨48, 57, [], 21⟩,
   ⟨58, 58, [.write_field], 22⟩, ⟨65, 68, [], 21⟩, ⟨69, 69, [], 102⟩, ⟨70, 90, [], 21⟩,
   ⟨94, 100, [], 21⟩, ⟨101, 101, [], 102⟩, ⟨102, 122, [], 21⟩, ⟨124, 124, [], 21⟩,
   ⟨126, 126, [], 21⟩],
  [⟨33, 33, [], 21⟩, ⟨35, 39, [], 21⟩, ⟨42, 43, [], 21⟩, ⟨45, 46, [], 21⟩, ⟨48, 57, [], 21⟩,
   ⟨58, 58, [.write_field], 22⟩, ⟨65, 77, [], 21⟩, ⟨78, 78, [], 103⟩, ⟨79, 90, [], 21⟩,
   ⟨94, 109, [], 21⟩, ⟨110, 110, [], 103⟩, ⟨111, 122, [], 21⟩, ⟨124, 124, [], 21⟩,
   ⟨126, 126, [], 21⟩],
  [⟨33, 33, [], 21⟩, ⟨35, 39, [], 21⟩, ⟨42, 43, [], 21⟩, ⟨45, 46, [], 21⟩, ⟨48, 57, [], 21⟩,
   ⟨58, 58, [.write_field], 22⟩, ⟨65, 83, [], 21⟩, ⟨84, 84, [], 104⟩, ⟨85, 90, [], 21⟩,
   ⟨94, 115, [], 21⟩, ⟨116, 116, [], 104⟩, ⟨117, 122, [], 21⟩, ⟨124, 124, [], 21⟩,
   ⟨126, 126, [], 21⟩],
  [⟨33, 33, [], 21⟩, ⟨35, 39, [], 21⟩, ⟨42, 43, [], 21⟩, ⟨45, 45, [], 105⟩, ⟨46, 46, [], 21⟩,
   ⟨48, 57, [], 21⟩, ⟨58, 58, [.write_field], 22⟩, ⟨65, 90, [], 21⟩, ⟨94, 122, [], 21⟩,
   ⟨124, 124, [], 21⟩, ⟨126, 126, [], 21⟩],
  [⟨33, 33, [], 21⟩, ⟨35, 39, [], 21⟩, ⟨42, 43, [], 21⟩, ⟨45, 46, [], 21⟩, ⟨48, 57, [], 21⟩,
   ⟨58, 58, [.write_field], 22⟩, ⟨65, 75, [], 21⟩, ⟨76, 76, [], 106⟩, ⟨77, 90, [], 21⟩,
   ⟨94, 107, [], 21⟩, ⟨108, 108, [], 106⟩, ⟨109, 122, [], 21⟩, ⟨124, 124, [], 21⟩,
   ⟨126, 126, [], 21⟩],
  [⟨33, 33, [], 21⟩, ⟨35, 39, [], 21⟩, ⟨42, 43, [], 21⟩, ⟨45, 46, [], 21⟩, ⟨48, 57, [], 21⟩,
   ⟨58, 58, [.write_field], 22⟩, ⟨65, 68, [], 21⟩, ⟨69, 69, [], 107⟩, ⟨70, 90, [], 21⟩,
   ⟨94, 100, [], 21⟩, ⟨101, 101, [], 107⟩, ⟨102, 122, [], 21⟩, ⟨124, 124, [], 21⟩,
   ⟨126, 126, [], 21⟩],
  [⟨33, 33, [], 21⟩, ⟨35, 39, [], 21⟩, ⟨42, 43, [], 21⟩, ⟨45, 46, [], 21⟩, ⟨48, 57, [], 21⟩,
   ⟨58, 58, [.write_field], 22⟩, ⟨65, 77, [], 21⟩, ⟨78, 78, [], 108⟩, ⟨79, 90, [], 21⟩,
   ⟨94, 109, [], 21⟩, ⟨110, 110, [], 108⟩, ⟨111, 122, [], 21⟩, ⟨124, 124, [], 21⟩,
   ⟨126, 126, [], 21⟩],
  [⟨33, 33, [], 21⟩, ⟨35, 39, [], 21⟩, ⟨42, 43, [], 21⟩, ⟨45, 46, [], 21⟩, ⟨48, 57, [], 21⟩,
   ⟨58, 58, [.write_field], 22⟩, ⟨65, 70, [], 21⟩, ⟨71, 71, [], 109⟩, ⟨72, 90, [], 21⟩,
   ⟨94, 102, [], 21⟩, ⟨103, 103, [], 109⟩, ⟨104, 122, [], 21⟩, ⟨124, 124, [], 21⟩,
   ⟨126, 126, [], 21⟩],
  [⟨33, 33, [], 21⟩, ⟨35, 39, [], 21⟩, ⟨42, 43, [], 21⟩, ⟨45, 46, [], 21⟩, ⟨48, 57, [], 21⟩,
   ⟨58, 58, [.write_field], 22⟩, ⟨65, 83, [], 21⟩, ⟨84, 84, [], 110⟩, ⟨85, 90, [], 21⟩,
   ⟨94, 115, [], 21⟩, ⟨116, 116, [], 110⟩, ⟨117, 122, [], 21⟩, ⟨124, 124, [], 21⟩,
   ⟨126, 126, [], 21⟩],
  [⟨33, 33, [], 21⟩, ⟨35, 39, [], 21⟩, ⟨42, 43, [], 21⟩, ⟨45, 46, [], 21⟩, ⟨48, 57, [], 21⟩,
   ⟨58, 58, [.write_field], 22⟩, ⟨65, 71, [], 21⟩, ⟨72, 72, [], 111⟩, ⟨73, 90, [], 21⟩,
   ⟨94, 103, [], 21⟩, ⟨104, 104, [], 111⟩, ⟨105, 122, [], 21⟩, ⟨124, 124, [], 21⟩,
   ⟨126, 126, [], 21⟩],
  [⟨33, 33, [], 21⟩, ⟨35, 39, [], 21⟩, ⟨42, 43, [], 21⟩, ⟨45, 46, [], 21⟩, ⟨48, 57, [], 21⟩,
   ⟨58, 58, [.write_field], 112⟩, ⟨65, 90, [], 21⟩, ⟨94, 122, [], 21⟩, ⟨124, 124, [], 21⟩,
   ⟨126, 126, [], 21⟩],
  [⟨0, 8, [.start_value], 23⟩, ⟨9, 9, [.start_value], 112⟩,
   ⟨10, 10, [.start_value, .write_value], 113⟩, ⟨11, 12, [.start_value], 112⟩,
   ⟨13, 13, [.start_value, .write_value], 118⟩, ⟨14, 31, [.start_value], 23⟩,
   ⟨32, 32, [.start_value], 112⟩, ⟨33, 47, [.start_value], 23⟩, ⟨48, 57, [.start_value], 119⟩,
   ⟨58, 255, [.start_value], 23⟩],
  [⟨9, 9, [], 114⟩, ⟨10, 10, [.done], 123⟩, ⟨11, 12, [], 114⟩, ⟨13, 13, [], 116⟩,
   ⟨32, 32, [], 114⟩, ⟨33, 33, [.start_field], 21⟩, ⟨35, 39, [.start_field], 21⟩,
   ⟨42, 43, [.start_field], 21⟩, ⟨45, 46, [.start_field], 21⟩,
   ⟨48, 57, [.start_value, .start_field], 117⟩, ⟨65, 66, [.start_field], 21⟩,
   ⟨67, 67, [.start_field], 25⟩, ⟨68, 83, [.start_field], 21⟩, ⟨84, 84, [.start_field], 44⟩,
   ⟨85, 90, [.start_field], 21⟩, ⟨94, 98, [.start_field], 21⟩, ⟨99, 99, [.start_field], 25⟩,
   ⟨100, 115, [.start_field], 21⟩, ⟨116, 116, [.start_field], 44⟩, ⟨117, 122, [.start_field], 21⟩,
   ⟨124, 124, [.start_field], 21⟩, ⟨126, 126, [.start_field], 21⟩],
  [⟨9, 13, [], 114⟩, ⟨32, 32, [], 114⟩, ⟨48, 57, [.start_value], 115⟩],
  [⟨10, 10, [.write_content_len, .write_value], 20⟩,
   ⟨13, 13, [.write_content_len, .write_value], 24⟩, ⟨48, 57, [], 115⟩],
  [⟨9, 9, [], 114⟩, ⟨10, 10, [.done], 123⟩, ⟨11, 13, [], 114⟩, ⟨32, 32, [], 114⟩,
   ⟨48, 57, [.start_value], 115⟩],
  [⟨10, 10, [.write_content_len, .write_value], 20⟩,
   ⟨13, 13, [.write_content_len, .write_value], 24⟩, ⟨33, 33, [], 21⟩, ⟨35, 39, [], 21⟩,
   ⟨42, 43, [], 21⟩, ⟨45, 46, [], 21⟩, ⟨48, 57, [], 117⟩, ⟨58, 58, [.write_field], 22⟩,
   ⟨65, 90, [], 21⟩, ⟨94, 122, [], 21⟩, ⟨124, 124, [], 21⟩, ⟨126, 126, [], 21⟩],
  [⟨9, 9, [], 114⟩, ⟨10, 10, [], 113⟩, ⟨11, 13, [], 114⟩, ⟨32, 32, [], 114⟩,
   ⟨48, 57, [.start_value], 115⟩],
  [⟨0, 9, [], 23⟩, ⟨10, 10, [.write_content_len, .write_value], 20⟩, ⟨11, 12, [], 23⟩,
   ⟨13, 13, [.write_content_len, .write_value], 24⟩, ⟨14, 47, [], 23⟩, ⟨48, 57, [], 119⟩,
   ⟨58, 255, [], 23⟩]]

/-- The states 120 to 123. -/
def states120 : List (List (Edge Action)) := [
  [],
  [⟨9, 13, [], 63⟩, ⟨32, 32, [], 63⟩, ⟨67, 67, [.start_value], 64⟩, ⟨99, 99, [.start_value], 64⟩],
  [⟨9, 13, [], 37⟩, ⟨32, 32, [], 37⟩, ⟨67, 67, [], 38⟩, ⟨99, 99, [], 38⟩],
  [⟨9, 13, [], 114⟩, ⟨32, 32, [], 114⟩, ⟨48, 57, [.start_value], 115⟩]]

/-- For each state the ranges of bytes it accepts. -/
def rows : List (List (Edge Action)) :=
  states0 ++ states40 ++ states80 ++ states120

/-- The first final state. -/
def first_final : ℕ := 120

/-- The state after an error. -/
def error : ℕ := 0

/-- The machine `httpclient_parser`. -/
def machine : Scanner Action where
  next cs c := Edge.lookup (rows.getD cs []) c
  stops a := a == .done

end Ancfl.Http.HttpclientParser
