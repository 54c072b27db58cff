/-!
# Composed text

A letter with marks can be written as one character or as several. Text is composed when marks
stand in the order of their classes and every letter takes in the marks that it can. The tables
know the lower-case letters, digits and marks of Unicode 14.
-/

namespace FleetTracking.Text

/-! ## Tables -/

/-- Runs of marks of one class: the first one, the one behind the last one, and the class. -/
def markClasses : Array (Nat × Nat × Nat) :=
  #[(768, 789, 230), (789, 790, 232), (790, 794, 220), (794, 795, 232), (795, 796, 216),
    (796, 801, 220), (801, 803, 202), (803, 807, 220), (807, 809, 202), (809, 820, 220),
    (820, 825, 1), (825, 829, 220), (829, 832, 230), (834, 835, 230), (838, 839, 230),
    (839, 842, 220), (842, 845, 230), (845, 847, 220), (848, 851, 230), (851, 855, 220),
    (855, 856, 230), (856, 857, 232), (857, 859, 220), (859, 860, 230), (860, 861, 233),
    (861, 863, 234), (863, 864, 233), (864, 866, 234), (866, 867, 233), (867, 880, 230),
    (1155, 1160, 230), (1425, 1426, 220), (1426, 1430, 230), (1430, 1431, 220), (1431, 1434, 230),
    (1434, 1435, 222), (1435, 1436, 220), (1436, 1442, 230), (1442, 1448, 220), (1448, 1450, 230),
    (1450, 1451, 220), (1451, 1453, 230), (1453, 1454, 222), (1454, 1455, 228), (1455, 1456, 230),
    (1456, 1457, 10), (1457, 1458, 11), (1458, 1459, 12), (1459, 1460, 13), (1460, 1461, 14),
    (1461, 1462, 15), (1462, 1463, 16), (1463, 1464, 17), (1464, 1465, 18), (1465, 1467, 19),
    (1467, 1468, 20), (1468, 1469, 21), (1469, 1470, 22), (1471, 1472, 23), (1473, 1474, 24),
    (1474, 1475, 25), (1476, 1477, 230), (1477, 1478, 220), (1479, 1480, 18), (1552, 1560, 230),
    (1560, 1561, 30), (1561, 1562, 31), (1562, 1563, 32), (1611, 1612, 27), (1612, 1613, 28),
    (1613, 1614, 29), (1614, 1615, 30), (1615, 1616, 31), (1616, 1617, 32), (1617, 1618, 33),
    (1618, 1619, 34), (1619, 1621, 230), (1621, 1623, 220), (1623, 1628, 230), (1628, 1629, 220),
    (1629, 1631, 230), (1631, 1632, 220), (1648, 1649, 35), (1750, 1757, 230), (1759, 1763, 230),
    (1763, 1764, 220), (1764, 1765, 230), (1767, 1769, 230), (1770, 1771, 220), (1771, 1773, 230),
    (1773, 1774, 220), (1809, 1810, 36), (1840, 1841, 230), (1841, 1842, 220), (1842, 1844, 230),
    (1844, 1845, 220), (1845, 1847, 230), (1847, 1850, 220), (1850, 1851, 230), (1851, 1853, 220),
    (1853, 1854, 230), (1854, 1855, 220), (1855, 1858, 230), (1858, 1859, 220), (1859, 1860, 230),
    (1860, 1861, 220), (1861, 1862, 230), (1862, 1863, 220), (1863, 1864, 230), (1864, 1865, 220),
    (1865, 1867, 230), (2027, 2034, 230), (2034, 2035, 220), (2035, 2036, 230), (2045, 2046, 220),
    (2070, 2074, 230), (2075, 2084, 230), (2085, 2088, 230), (2089, 2094, 230), (2137, 2140, 220),
    (2200, 2201, 230), (2201, 2204, 220), (2204, 2208, 230), (2250, 2255, 230), (2255, 2260, 220),
    (2260, 2274, 230), (2275, 2276, 220), (2276, 2278, 230), (2278, 2279, 220), (2279, 2281, 230),
    (2281, 2282, 220), (2282, 2285, 230), (2285, 2288, 220), (2288, 2289, 27), (2289, 2290, 28),
    (2290, 2291, 29), (2291, 2294, 230), (2294, 2295, 220), (2295, 2297, 230), (2297, 2299, 220),
    (2299, 2304, 230), (2364, 2365, 7), (2381, 2382, 9), (2385, 2386, 230), (2386, 2387, 220),
    (2387, 2389, 230), (2492, 2493, 7), (2509, 2510, 9), (2558, 2559, 230), (2620, 2621, 7),
    (2637, 2638, 9), (2748, 2749, 7), (2765, 2766, 9), (2876, 2877, 7), (2893, 2894, 9),
    (3021, 3022, 9), (3132, 3133, 7), (3149, 3150, 9), (3157, 3158, 84), (3158, 3159, 91),
    (3260, 3261, 7), (3277, 3278, 9), (3387, 3389, 9), (3405, 3406, 9), (3530, 3531, 9),
    (3640, 3642, 103), (3642, 3643, 9), (3656, 3660, 107), (3768, 3770, 118), (3770, 3771, 9),
    (3784, 3788, 122), (3864, 3866, 220), (3893, 3894, 220), (3895, 3896, 220), (3897, 3898, 216),
    (3953, 3954, 129), (3954, 3955, 130), (3956, 3957, 132), (3962, 3966, 130), (3968, 3969, 130),
    (3970, 3972, 230), (3972, 3973, 9), (3974, 3976, 230), (4038, 4039, 220), (4151, 4152, 7),
    (4153, 4155, 9), (4237, 4238, 220), (4957, 4960, 230), (5908, 5910, 9), (5940, 5941, 9),
    (6098, 6099, 9), (6109, 6110, 230), (6313, 6314, 228), (6457, 6458, 222), (6458, 6459, 230),
    (6459, 6460, 220), (6679, 6680, 230), (6680, 6681, 220), (6752, 6753, 9), (6773, 6781, 230),
    (6783, 6784, 220), (6832, 6837, 230), (6837, 6843, 220), (6843, 6845, 230), (6845, 6846, 220),
    (6847, 6849, 220), (6849, 6851, 230), (6851, 6853, 220), (6853, 6858, 230), (6858, 6859, 220),
    (6859, 6863, 230), (6964, 6965, 7), (6980, 6981, 9), (7019, 7020, 230), (7020, 7021, 220),
    (7021, 7028, 230), (7082, 7084, 9), (7142, 7143, 7), (7154, 7156, 9), (7223, 7224, 7),
    (7376, 7379, 230), (7380, 7381, 1), (7381, 7386, 220), (7386, 7388, 230), (7388, 7392, 220),
    (7392, 7393, 230), (7394, 7401, 1), (7405, 7406, 220), (7412, 7413, 230), (7416, 7418, 230),
    (7616, 7618, 230), (7618, 7619, 220), (7619, 7626, 230), (7626, 7627, 220), (7627, 7629, 230),
    (7629, 7630, 234), (7630, 7631, 214), (7631, 7632, 220), (7632, 7633, 202), (7633, 7670, 230),
    (7670, 7671, 232), (7671, 7673, 228), (7673, 7674, 220), (7674, 7675, 218), (7675, 7676, 230),
    (7676, 7677, 233), (7677, 7678, 220), (7678, 7679, 230), (7679, 7680, 220),
    (11503, 11506, 230), (11647, 11648, 9), (11744, 11776, 230), (12330, 12331, 218),
    (12331, 12332, 228), (12332, 12333, 232), (12333, 12334, 222), (12441, 12443, 8),
    (42607, 42608, 230), (42612, 42622, 230), (42654, 42656, 230), (42736, 42738, 230),
    (43014, 43015, 9), (43052, 43053, 9), (43204, 43205, 9), (43232, 43250, 230),
    (43307, 43310, 220), (43347, 43348, 9), (43443, 43444, 7), (43456, 43457, 9),
    (43696, 43697, 230), (43698, 43700, 230), (43700, 43701, 220), (43703, 43705, 230),
    (43710, 43712, 230), (43713, 43714, 230), (43766, 43767, 9), (44013, 44014, 9),
    (64286, 64287, 26), (65056, 65063, 230), (65063, 65070, 220), (65070, 65072, 230),
    (66045, 66046, 220), (66272, 66273, 220), (66422, 66427, 230), (68109, 68110, 220),
    (68111, 68112, 230), (68152, 68153, 230), (68153, 68154, 1), (68154, 68155, 220),
    (68159, 68160, 9), (68325, 68326, 230), (68326, 68327, 220), (68900, 68904, 230),
    (69291, 69293, 230), (69446, 69448, 220), (69448, 69451, 230), (69451, 69452, 220),
    (69452, 69453, 230), (69453, 69457, 220), (69506, 69507, 230), (69507, 69508, 220),
    (69508, 69509, 230), (69509, 69510, 220), (69702, 69703, 9), (69744, 69745, 9),
    (69759, 69760, 9), (69817, 69818, 9), (69818, 69819, 7), (69888, 69891, 230),
    (69939, 69941, 9), (70003, 70004, 7), (70080, 70081, 9), (70090, 70091, 7), (70197, 70198, 9),
    (70198, 70199, 7), (70377, 70378, 7), (70378, 70379, 9), (70459, 70461, 7), (70477, 70478, 9),
    (70502, 70509, 230), (70512, 70517, 230), (70722, 70723, 9), (70726, 70727, 7),
    (70750, 70751, 230), (70850, 70851, 9), (70851, 70852, 7), (71103, 71104, 9),
    (71104, 71105, 7), (71231, 71232, 9), (71350, 71351, 9), (71351, 71352, 7), (71467, 71468, 9),
    (71737, 71738, 9), (71738, 71739, 7), (71997, 71999, 9), (72003, 72004, 7), (72160, 72161, 9),
    (72244, 72245, 9), (72263, 72264, 9), (72345, 72346, 9), (72767, 72768, 9), (73026, 73027, 7),
    (73028, 73030, 9), (73111, 73112, 9), (92912, 92917, 1), (92976, 92983, 230),
    (94192, 94194, 6), (113822, 113823, 1), (122880, 122887, 230), (122888, 122905, 230),
    (122907, 122914, 230), (122915, 122917, 230), (122918, 122923, 230), (123184, 123191, 230),
    (123566, 123567, 230), (123628, 123632, 230), (125136, 125143, 220), (125252, 125258, 230),
    (125258, 125259, 7)]

/-- Letters with a mark: the letter, the mark, and the character for both. -/
def composites : Array (Nat × Nat × Nat) :=
  #[(97, 768, 224), (97, 769, 225), (97, 770, 226), (97, 771, 227), (97, 776, 228), (97, 778, 229),
    (99, 807, 231), (101, 768, 232), (101, 769, 233), (101, 770, 234), (101, 776, 235),
    (105, 768, 236), (105, 769, 237), (105, 770, 238), (105, 776, 239), (110, 771, 241),
    (111, 768, 242), (111, 769, 243), (111, 770, 244), (111, 771, 245), (111, 776, 246),
    (117, 768, 249), (117, 769, 250), (117, 770, 251), (117, 776, 252), (121, 769, 253),
    (121, 776, 255), (97, 772, 257), (97, 774, 259), (97, 808, 261), (99, 769, 263),
    (99, 770, 265), (99, 775, 267), (99, 780, 269), (100, 780, 271), (101, 772, 275),
    (101, 774, 277), (101, 775, 279), (101, 808, 281), (101, 780, 283), (103, 770, 285),
    (103, 774, 287), (103, 775, 289), (103, 807, 291), (104, 770, 293), (105, 771, 297),
    (105, 772, 299), (105, 774, 301), (105, 808, 303), (106, 770, 309), (107, 807, 311),
    (108, 769, 314), (108, 807, 316), (108, 780, 318), (110, 769, 324), (110, 807, 326),
    (110, 780, 328), (111, 772, 333), (111, 774, 335), (111, 779, 337), (114, 769, 341),
    (114, 807, 343), (114, 780, 345), (115, 769, 347), (115, 770, 349), (115, 807, 351),
    (115, 780, 353), (116, 807, 355), (116, 780, 357), (117, 771, 361), (117, 772, 363),
    (117, 774, 365), (117, 778, 367), (117, 779, 369), (117, 808, 371), (119, 770, 373),
    (121, 770, 375), (122, 769, 378), (122, 775, 380), (122, 780, 382), (111, 795, 417),
    (117, 795, 432), (97, 780, 462), (105, 780, 464), (111, 780, 466), (117, 780, 468),
    (252, 772, 470), (252, 769, 472), (252, 780, 474), (252, 768, 476), (228, 772, 479),
    (551, 772, 481), (230, 772, 483), (103, 780, 487), (107, 780, 489), (111, 808, 491),
    (491, 772, 493), (658, 780, 495), (106, 780, 496), (103, 769, 501), (110, 768, 505),
    (229, 769, 507), (230, 769, 509), (248, 769, 511), (97, 783, 513), (97, 785, 515),
    (101, 783, 517), (101, 785, 519), (105, 783, 521), (105, 785, 523), (111, 783, 525),
    (111, 785, 527), (114, 783, 529), (114, 785, 531), (117, 783, 533), (117, 785, 535),
    (115, 806, 537), (116, 806, 539), (104, 780, 543), (97, 775, 551), (101, 807, 553),
    (246, 772, 555), (245, 772, 557), (111, 775, 559), (559, 772, 561), (121, 772, 563),
    (970, 769, 912), (945, 769, 940), (949, 769, 941), (951, 769, 942), (953, 769, 943),
    (971, 769, 944), (953, 776, 970), (965, 776, 971), (959, 769, 972), (965, 769, 973),
    (969, 769, 974), (1080, 774, 1081), (1077, 768, 1104), (1077, 776, 1105), (1075, 769, 1107),
    (1110, 776, 1111), (1082, 769, 1116), (1080, 768, 1117), (1091, 774, 1118), (1141, 783, 1143),
    (1078, 774, 1218), (1072, 774, 1233), (1072, 776, 1235), (1077, 774, 1239), (1241, 776, 1243),
    (1078, 776, 1245), (1079, 776, 1247), (1080, 772, 1251), (1080, 776, 1253), (1086, 776, 1255),
    (1257, 776, 1259), (1101, 776, 1261), (1091, 772, 1263), (1091, 776, 1265), (1091, 779, 1267),
    (1095, 776, 1269), (1099, 776, 1273), (1575, 1619, 1570), (1575, 1620, 1571),
    (1608, 1620, 1572), (1575, 1621, 1573), (1610, 1620, 1574), (1749, 1620, 1728),
    (1729, 1620, 1730), (1746, 1620, 1747), (2344, 2364, 2345), (2352, 2364, 2353),
    (2355, 2364, 2356), (2503, 2494, 2507), (2503, 2519, 2508), (2887, 2902, 2888),
    (2887, 2878, 2891), (2887, 2903, 2892), (2962, 3031, 2964), (3014, 3006, 3018),
    (3015, 3006, 3019), (3014, 3031, 3020), (3142, 3158, 3144), (3263, 3285, 3264),
    (3270, 3285, 3271), (3270, 3286, 3272), (3270, 3266, 3274), (3274, 3285, 3275),
    (3398, 3390, 3402), (3399, 3390, 3403), (3398, 3415, 3404), (3545, 3530, 3546),
    (3545, 3535, 3548), (3548, 3530, 3549), (3545, 3551, 3550), (4133, 4142, 4134),
    (6917, 6965, 6918), (6919, 6965, 6920), (6921, 6965, 6922), (6923, 6965, 6924),
    (6925, 6965, 6926), (6929, 6965, 6930), (6970, 6965, 6971), (6972, 6965, 6973),
    (6974, 6965, 6976), (6975, 6965, 6977), (6978, 6965, 6979), (97, 805, 7681), (98, 775, 7683),
    (98, 803, 7685), (98, 817, 7687), (231, 769, 7689), (100, 775, 7691), (100, 803, 7693),
    (100, 817, 7695), (100, 807, 7697), (100, 813, 7699), (275, 768, 7701), (275, 769, 7703),
    (101, 813, 7705), (101, 816, 7707), (553, 774, 7709), (102, 775, 7711), (103, 772, 7713),
    (104, 775, 7715), (104, 803, 7717), (104, 776, 7719), (104, 807, 7721), (104, 814, 7723),
    (105, 816, 7725), (239, 769, 7727), (107, 769, 7729), (107, 803, 7731), (107, 817, 7733),
    (108, 803, 7735), (7735, 772, 7737), (108, 817, 7739), (108, 813, 7741), (109, 769, 7743),
    (109, 775, 7745), (109, 803, 7747), (110, 775, 7749), (110, 803, 7751), (110, 817, 7753),
    (110, 813, 7755), (245, 769, 7757), (245, 776, 7759), (333, 768, 7761), (333, 769, 7763),
    (112, 769, 7765), (112, 775, 7767), (114, 775, 7769), (114, 803, 7771), (7771, 772, 7773),
    (114, 817, 7775), (115, 775, 7777), (115, 803, 7779), (347, 775, 7781), (353, 775, 7783),
    (7779, 775, 7785), (116, 775, 7787), (116, 803, 7789), (116, 817, 7791), (116, 813, 7793),
    (117, 804, 7795), (117, 816, 7797), (117, 813, 7799), (361, 769, 7801), (363, 776, 7803),
    (118, 771, 7805), (118, 803, 7807), (119, 768, 7809), (119, 769, 7811), (119, 776, 7813),
    (119, 775, 7815), (119, 803, 7817), (120, 775, 7819), (120, 776, 7821), (121, 775, 7823),
    (122, 770, 7825), (122, 803, 7827), (122, 817, 7829), (104, 817, 7830), (116, 776, 7831),
    (119, 778, 7832), (121, 778, 7833), (97, 803, 7841), (97, 777, 7843), (226, 769, 7845),
    (226, 768, 7847), (226, 777, 7849), (226, 771, 7851), (7841, 770, 7853), (259, 769, 7855),
    (259, 768, 7857), (259, 777, 7859), (259, 771, 7861), (7841, 774, 7863), (101, 803, 7865),
    (101, 777, 7867), (101, 771, 7869), (234, 769, 7871), (234, 768, 7873), (234, 777, 7875),
    (234, 771, 7877), (7865, 770, 7879), (105, 777, 7881), (105, 803, 7883), (111, 803, 7885),
    (111, 777, 7887), (244, 769, 7889), (244, 768, 7891), (244, 777, 7893), (244, 771, 7895),
    (7885, 770, 7897), (417, 769, 7899), (417, 768, 7901), (417, 777, 7903), (417, 771, 7905),
    (417, 803, 7907), (117, 803, 7909), (117, 777, 7911), (432, 769, 7913), (432, 768, 7915),
    (432, 777, 7917), (432, 771, 7919), (432, 803, 7921), (121, 768, 7923), (121, 803, 7925),
    (121, 777, 7927), (121, 771, 7929), (945, 787, 7936), (945, 788, 7937), (7936, 768, 7938),
    (7937, 768, 7939), (7936, 769, 7940), (7937, 769, 7941), (7936, 834, 7942), (7937, 834, 7943),
    (949, 787, 7952), (949, 788, 7953), (7952, 768, 7954), (7953, 768, 7955), (7952, 769, 7956),
    (7953, 769, 7957), (951, 787, 7968), (951, 788, 7969), (7968, 768, 7970), (7969, 768, 7971),
    (7968, 769, 7972), (7969, 769, 7973), (7968, 834, 7974), (7969, 834, 7975), (953, 787, 7984),
    (953, 788, 7985), (7984, 768, 7986), (7985, 768, 7987), (7984, 769, 7988), (7985, 769, 7989),
    (7984, 834, 7990), (7985, 834, 7991), (959, 787, 8000), (959, 788, 8001), (8000, 768, 8002),
    (8001, 768, 8003), (8000, 769, 8004), (8001, 769, 8005), (965, 787, 8016), (965, 788, 8017),
    (8016, 768, 8018), (8017, 768, 8019), (8016, 769, 8020), (8017, 769, 8021), (8016, 834, 8022),
    (8017, 834, 8023), (969, 787, 8032), (969, 788, 8033), (8032, 768, 8034), (8033, 768, 8035),
    (8032, 769, 8036), (8033, 769, 8037), (8032, 834, 8038), (8033, 834, 8039), (945, 768, 8048),
    (949, 768, 8050), (951, 768, 8052), (953, 768, 8054), (959, 768, 8056), (965, 768, 8058),
    (969, 768, 8060), (945, 774, 8112), (945, 772, 8113), (945, 834, 8118), (951, 834, 8134),
    (953, 774, 8144), (953, 772, 8145), (970, 768, 8146), (953, 834, 8150), (970, 834, 8151),
    (965, 774, 8160), (965, 772, 8161), (971, 768, 8162), (961, 787, 8164), (961, 788, 8165),
    (965, 834, 8166), (971, 834, 8167), (969, 834, 8182), (12363, 12441, 12364),
    (12365, 12441, 12366), (12367, 12441, 12368), (12369, 12441, 12370), (12371, 12441, 12372),
    (12373, 12441, 12374), (12375, 12441, 12376), (12377, 12441, 12378), (12379, 12441, 12380),
    (12381, 12441, 12382), (12383, 12441, 12384), (12385, 12441, 12386), (12388, 12441, 12389),
    (12390, 12441, 12391), (12392, 12441, 12393), (12399, 12441, 12400), (12399, 12442, 12401),
    (12402, 12441, 12403), (12402, 12442, 12404), (12405, 12441, 12406), (12405, 12442, 12407),
    (12408, 12441, 12409), (12408, 12442, 12410), (12411, 12441, 12412), (12411, 12442, 12413),
    (12358, 12441, 12436), (12445, 12441, 12446), (12459, 12441, 12460), (12461, 12441, 12462),
    (12463, 12441, 12464), (12465, 12441, 12466), (12467, 12441, 12468), (12469, 12441, 12470),
    (12471, 12441, 12472), (12473, 12441, 12474), (12475, 12441, 12476), (12477, 12441, 12478),
    (12479, 12441, 12480), (12481, 12441, 12482), (12484, 12441, 12485), (12486, 12441, 12487),
    (12488, 12441, 12489), (12495, 12441, 12496), (12495, 12442, 12497), (12498, 12441, 12499),
    (12498, 12442, 12500), (12501, 12441, 12502), (12501, 12442, 12503), (12504, 12441, 12505),
    (12504, 12442, 12506), (12507, 12441, 12508), (12507, 12442, 12509), (12454, 12441, 12532),
    (12527, 12441, 12535), (12528, 12441, 12536), (12529, 12441, 12537), (12530, 12441, 12538),
    (12541, 12441, 12542), (69785, 69818, 69786), (69787, 69818, 69788), (69797, 69818, 69803),
    (69937, 69927, 69934), (69938, 69927, 69935), (70471, 70462, 70475), (70471, 70487, 70476),
    (70841, 70842, 70843), (70841, 70832, 70844), (70841, 70845, 70846), (71096, 71087, 71098),
    (71097, 71087, 71099), (71989, 71984, 71992)]

/-! ## Taking apart -/

/-- The class of a mark; all other characters have class zero. -/
def markClass (c : Char) : Nat :=
  match markClasses.find? fun (first, stop, _) => first ≤ c.toNat && c.toNat < stop with
  | some (_, _, k) => k
  | none => 0

/-- Takes one mark off every letter that has one. -/
def takeApart (cs : List Char) : List Char :=
  cs.flatMap fun c =>
    match composites.find? fun (_, _, whole) => whole == c.toNat with
    | some (letter, mark, _) => [Char.ofNat letter, Char.ofNat mark]
    | none => [c]

/-- Puts a character in front of text; a mark goes behind all marks of smaller classes. -/
def placeMark (c : Char) : List Char → List Char
  | [] => [c]
  | d :: cs =>
    if 0 < markClass d && markClass d < markClass c then d :: placeMark c cs else c :: d :: cs

/-- Letters apart from their marks, and those in order. No letter has more than four. -/
def decomposed (cs : List Char) : List Char :=
  (takeApart (takeApart (takeApart (takeApart cs)))).foldr placeMark []

/-! ## Putting together -/

/-- The character for a letter with a mark. -/
def composite? (letter mark : Char) : Option Char :=
  (composites.find? fun (l, m, _) => l == letter.toNat && m == mark.toNat).map fun (_, _, whole) =>
    Char.ofNat whole

/-- Composes text behind a letter and marks that it did not take in, which keep it from marks of
their class and smaller ones. -/
def composeAfter (letter : Char) (marks : List Char) : List Char → List Char
  | [] => letter :: marks
  | c :: cs =>
    let isKept := marks.getLast?.any fun m => markClass c ≤ markClass m
    match if isKept then none else composite? letter c with
    | some whole => composeAfter whole marks cs
    | none =>
      if markClass c = 0 then letter :: (marks ++ composeAfter c [] cs)
      else composeAfter letter (marks ++ [c]) cs

/-- Composed text that means the same. -/
def composed (cs : List Char) : List Char :=
  match decomposed cs with
  | [] => []
  | c :: cs => composeAfter c [] cs

end FleetTracking.Text
