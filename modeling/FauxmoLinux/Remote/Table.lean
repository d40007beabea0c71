import FauxmoLinux.Bridge.Device

/-!
The command tables of `remote_control.cpp` and what the constructor makes of them.

* `remote_control_LG`, `remote_control_DYON`, `brightness_to_channel_mapping`: the tables, under
  the source's names. A `std::map` is an association list with distinct keys;
* `getRemoteControlOf`, `getRemoteControl`: the decoding of a table, each comma-separated list of
  hexadecimal bytes becoming a frame behind the two bytes that address the infrared module;
* `lgTable`, `getRemoteControl_LG`: the decoded LG table;
* `convertBrightnessToChannel`, `channelOf`: the channel of a brightness. The map has all keys,
  so `at` never throws.
-/

namespace FauxmoLinux

/-- `std::map<std::string, α>`. -/
abbrev StrMap (α : Type) := List (Bytes × α)

def remote_control_LG : StrMap Bytes :=
  [(bytes "on/off", bytes "0x04,0xfb,0x08"),
   (bytes "ch0", bytes "0x04,0xfb,0x10"),
   (bytes "ch1", bytes "0x04,0xfb,0x11"),
   (bytes "ch2", bytes "0x04,0xfb,0x12"),
   (bytes "ch3", bytes "0x04,0xfb,0x13"),
   (bytes "ch4", bytes "0x04,0xfb,0x14"),
   (bytes "ch5", bytes "0x04,0xfb,0x15"),
   (bytes "ch6", bytes "0x04,0xfb,0x16"),
   (bytes "ch7", bytes "0x04,0xfb,0x17"),
   (bytes "ch8", bytes "0x04,0xfb,0x18"),
   (bytes "ch9", bytes "0x04,0xfb,0x19"),
   (bytes "vol+", bytes "0x04,0xfb,0x02"),
   (bytes "vol-", bytes "0x04,0xfb,0x03"),
   (bytes "ch+", bytes "0x04,0xfb,0x00"),
   (bytes "ch-", bytes "0x04,0xfb,0x01"),
   (bytes "mute", bytes "0x04,0xfb,0x09")]

def remote_control_DYON : StrMap Bytes :=
  [(bytes "on/off", bytes "0x02,0xdf,0x52"),
   (bytes "ch0", bytes "0x02,0xdf,0x1b"),
   (bytes "ch1", bytes "0x02,0xdf,0x00"),
   (bytes "ch2", bytes "0x02,0xdf,0x10"),
   (bytes "ch3", bytes "0x02,0xdf,0x11"),
   (bytes "ch4", bytes "0x02,0xdf,0x13"),
   (bytes "ch5", bytes "0x02,0xdf,0x14"),
   (bytes "ch6", bytes "0x02,0xdf,0x15"),
   (bytes "ch7", bytes "0x02,0xdf,0x17"),
   (bytes "ch8", bytes "0x02,0xdf,0x18"),
   (bytes "ch9", bytes "0x02,0xdf,0x19"),
   (bytes "vol+", bytes "0x02,0xdf,0x03"),
   (bytes "vol-", bytes "0x02,0xdf,0x41"),
   (bytes "ch+", bytes "0x02,0xdf,0x02"),
   (bytes "ch-", bytes "0x02,0xdf,0x09"),
   (bytes "mute", bytes "0x02,0xdf,0x53")]

def brightness_to_channel_mapping : List (UInt8 × UInt8) :=
  [(0, 0), (1, 0), (2, 0), (3, 1), (4, 1), (5, 1), (6, 2), (7, 2), (8, 2), (9, 3), (10, 3),
   (11, 4), (12, 4), (13, 4), (14, 5), (15, 5), (16, 6), (17, 6), (18, 6), (19, 7), (20, 7),
   (21, 8), (22, 8), (23, 8), (24, 9), (25, 9), (26, 10), (27, 10), (28, 10), (29, 11), (30, 11),
   (31, 12), (32, 12), (33, 12), (34, 13), (35, 13), (36, 14), (37, 14), (38, 14), (39, 15),
   (40, 15), (41, 16), (42, 16), (43, 16), (44, 17), (45, 17), (46, 17), (47, 18), (48, 18),
   (49, 19), (50, 19), (51, 19), (52, 20), (53, 20), (54, 21), (55, 21), (56, 21), (57, 22),
   (58, 22), (59, 23), (60, 23), (61, 23), (62, 24), (63, 24), (64, 25), (65, 25), (66, 25),
   (67, 26), (68, 26), (69, 27), (70, 27), (71, 27), (72, 28), (73, 28), (74, 29), (75, 29),
   (76, 29), (77, 30), (78, 30), (79, 31), (80, 31), (81, 31), (82, 32), (83, 32), (84, 33),
   (85, 33), (86, 33), (87, 34), (88, 34), (89, 34), (90, 35), (91, 35), (92, 36), (93, 36),
   (94, 36), (95, 37), (96, 37), (97, 38), (98, 38), (99, 38), (100, 39), (101, 39), (102, 40),
   (103, 40), (104, 40), (105, 41), (106, 41), (107, 42), (108, 42), (109, 42), (110, 43),
   (111, 43), (112, 44), (113, 44), (114, 44), (115, 45), (116, 45), (117, 46), (118, 46),
   (119, 46), (120, 47), (121, 47), (122, 48), (123, 48), (124, 48), (125, 49), (126, 49),
   (127, 50), (128, 50), (129, 50), (130, 51), (131, 51), (132, 51), (133, 52), (134, 52),
   (135, 53), (136, 53), (137, 53), (138, 54), (139, 54), (140, 55), (141, 55), (142, 55),
   (143, 56), (144, 56), (145, 57), (146, 57), (147, 57), (148, 58), (149, 58), (150, 59),
   (151, 59), (152, 59), (153, 60), (154, 60), (155, 61), (156, 61), (157, 61), (158, 62),
   (159, 62), (160, 63), (161, 63), (162, 63), (163, 64), (164, 64), (165, 65), (166, 65),
   (167, 65), (168, 66), (169, 66), (170, 66), (171, 67), (172, 67), (173, 68), (174, 68),
   (175, 68), (176, 69), (177, 69), (178, 70), (179, 70), (180, 70), (181, 71), (182, 71),
   (183, 72), (184, 72), (185, 72), (186, 73), (187, 73), (188, 74), (189, 74), (190, 74),
   (191, 75), (192, 75), (193, 76), (194, 76), (195, 76), (196, 77), (197, 77), (198, 78),
   (199, 78), (200, 78), (201, 79), (202, 79), (203, 80), (204, 80), (205, 80), (206, 81),
   (207, 81), (208, 82), (209, 82), (210, 82), (211, 83), (212, 83), (213, 83), (214, 84),
   (215, 84), (216, 85), (217, 85), (218, 85), (219, 86), (220, 86), (221, 87), (222, 87),
   (223, 87), (224, 88), (225, 88), (226, 89), (227, 89), (228, 89), (229, 90), (230, 90),
   (231, 91), (232, 91), (233, 91), (234, 92), (235, 92), (236, 93), (237, 93), (238, 93),
   (239, 94), (240, 94), (241, 95), (242, 95), (243, 95), (244, 96), (245, 96), (246, 97),
   (247, 97), (248, 97), (249, 98), (250, 98), (251, 99), (252, 99), (253, 99), (254, 99),
   (255, 99)]

def remote_controls : StrMap (StrMap Bytes) :=
  [(bytes "LG", remote_control_LG), (bytes "DYON", remote_control_DYON)]

/-! ### Decoding a table -/

/-- The pieces `std::getline` reads with the delimiter `,`, `piece` being what is read of the
current one. Behind a last comma there is no further piece. -/
def getlines (piece : Bytes) : Bytes → List Bytes
  | [] => if piece = [] then [] else [piece]
  | c :: s => if c = 44 then piece :: getlines [] s else getlines (piece ++ [c]) s

/-- `std::map::insert`: an entry that is there stays. -/
def StrMap.insert {α : Type} (m : StrMap α) (key : Bytes) (entry : α) : StrMap α :=
  if (m.lookup key).isSome then m else m ++ [(key, entry)]

/-- The frame of a comma-separated list: the default address of the module, the operating mode
"transmit", and the bytes of the list. -/
def hexCodes (text : Bytes) : Except Fault Bytes := do
  let codes ← (getlines [] text).mapM stol16
  return [0xa1, 0xf1] ++ codes.map UInt8.ofInt

/-- The loop of `get_remote_control` over the entries of a table. -/
def decodeEntries (remoteControl : StrMap Bytes) : StrMap Bytes → Except Fault (StrMap Bytes)
  | [] => .ok remoteControl
  | (name, text) :: entries => do
      let codes ← hexCodes text
      decodeEntries (remoteControl.insert name codes) entries

/-- `get_remote_control` over any tables `remoteControls`; the null pointer of an unknown name is
read through. -/
def getRemoteControlOf (remoteControls : StrMap (StrMap Bytes)) (remoteControl : StrMap Bytes)
    (name : Bytes) : Except Fault (StrMap Bytes) :=
  match remoteControls.lookup name with
  | none => .error .badIndex
  | some table => decodeEntries remoteControl table

/-- `get_remote_control` over the tables of the source. -/
def getRemoteControl (remoteControl : StrMap Bytes) (name : Bytes) :
    Except Fault (StrMap Bytes) :=
  getRemoteControlOf remote_controls remoteControl name

/-- The frame of the LG code `b`. -/
def lgFrame (b : UInt8) : Bytes := [0xa1, 0xf1, 0x04, 0xfb, b]

/-- The decoded LG table. -/
def lgTable : StrMap Bytes :=
  [(bytes "on/off", lgFrame 0x08), (bytes "ch0", lgFrame 0x10), (bytes "ch1", lgFrame 0x11),
   (bytes "ch2", lgFrame 0x12), (bytes "ch3", lgFrame 0x13), (bytes "ch4", lgFrame 0x14),
   (bytes "ch5", lgFrame 0x15), (bytes "ch6", lgFrame 0x16), (bytes "ch7", lgFrame 0x17),
   (bytes "ch8", lgFrame 0x18), (bytes "ch9", lgFrame 0x19), (bytes "vol+", lgFrame 0x02),
   (bytes "vol-", lgFrame 0x03), (bytes "ch+", lgFrame 0x00), (bytes "ch-", lgFrame 0x01),
   (bytes "mute", lgFrame 0x09)]

lemma getRemoteControl_LG : getRemoteControl [] (bytes "LG") = .ok lgTable := rfl

/-! ### Channels -/

/-- `convert_brightness_to_channel`. -/
def convertBrightnessToChannel (value : UInt8) : Except Fault UInt8 :=
  match brightness_to_channel_mapping.lookup value with
  | some channel => .ok channel
  | none => .error .outOfRange

/-- The channel of a brightness. -/
def channelOf (value : UInt8) : UInt8 := (brightness_to_channel_mapping.lookup value).getD 0

/-- The map has every key once, in order. -/
lemma brightness_keys :
    brightness_to_channel_mapping.map Prod.fst = (List.range 256).map UInt8.ofNat := by
  decide +kernel

/-- Every brightness has a channel. -/
lemma lookup_channel (value : UInt8) :
    brightness_to_channel_mapping.lookup value = some (channelOf value) := by
  have hmem : value ∈ brightness_to_channel_mapping.map Prod.fst := by
    rw [brightness_keys]
    exact List.mem_map.mpr ⟨value.toNat, List.mem_range.mpr value.toNat_lt, UInt8.ofNat_toNat⟩
  cases hl : brightness_to_channel_mapping.lookup value with
  | some channel => rw [channelOf, hl]; rfl
  | none =>
      obtain ⟨entry, he, rfl⟩ := List.mem_map.mp hmem
      have hne := List.lookup_eq_none_iff.mp hl entry he
      simp at hne

lemma convertBrightnessToChannel_eq (value : UInt8) :
    convertBrightnessToChannel value = .ok (channelOf value) := by
  rw [convertBrightnessToChannel, lookup_channel value]

end FauxmoLinux
