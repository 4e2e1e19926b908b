import DeviceSync.Text.CharSet

/-!
# Characters of Domain Names

What each character becomes in a domain name: most stay as they are, capitals and other variants
are replaced by the plain form, a few are dropped, and the others may not occur. The tables follow
version 17 of the character database. A character whose plain form holds a character that no name
may hold is left out of them, since it is refused in any case.
-/

namespace DeviceSync.Domain

open Text

/-! ## Tables -/

/-- Characters that are replaced by another one at a fixed distance: a range and the replacement of
its first character. -/
def shiftLines : String := "
c0-d6:e0 d8-de:f8 391-3a1:3b1 3a3-3ab:3c3 400-40f:450 410-42f:430 531-556:561 10a0-10c5:2d00
13f8-13fd:13f0 1c90-1cba:10d0 1d33-1d3a:67 1f08-1f0f:1f00 1f18-1f1d:1f10 1f28-1f2f:1f20
1f38-1f3f:1f30 1f48-1f4d:1f40 1f68-1f6f:1f60 2074-2079:34 2080-2089:30 2460-2468:31 24b6-24cf:61
24d0-24e9:61 2c00-2c2f:2c30 313a-313f:11b0 3145-314e:1109 314f-3163:1161 3178-317c:112b
3269-326d:110e 32e4-32e9:30ca 32ee-32f2:30de 32f5-32fa:30e8 ab70-abbf:13a0 ff06-ff0e:26
ff10-ff19:30 ff21-ff3a:61 ff3f-ff5b:5f ff85-ff8a:30ca ff8f-ff93:30de ff96-ff9b:30e8 ffaa-ffaf:11b0
ffb5-ffbe:1109 ffc2-ffc7:1161 ffca-ffcf:1167 ffd2-ffd7:116d 10400-10427:10428 104b0-104d3:104d8
10570-1057a:10597 1057c-1058a:105a3 1058c-10592:105b3 10c80-10cb2:10cc0 10d50-10d65:10d70
118a0-118bf:118c0 16e40-16e5f:16e60 16ea0-16eb8:16ebb 1ccd6-1ccef:61 1ccf0-1ccf9:30 1d400-1d419:61
1d41a-1d433:61 1d434-1d44d:61 1d44e-1d454:61 1d456-1d467:69 1d468-1d481:61 1d482-1d49b:61
1d4ae-1d4b5:73 1d4bd-1d4c3:68 1d4c5-1d4cf:70 1d4d0-1d4e9:61 1d4ea-1d503:61 1d50d-1d514:6a
1d516-1d51c:73 1d51e-1d537:61 1d540-1d544:69 1d54a-1d550:73 1d552-1d56b:61 1d56c-1d585:61
1d586-1d59f:61 1d5a0-1d5b9:61 1d5ba-1d5d3:61 1d5d4-1d5ed:61 1d5ee-1d607:61 1d608-1d621:61
1d622-1d63b:61 1d63c-1d655:61 1d656-1d66f:61 1d670-1d689:61 1d68a-1d6a3:61 1d6a8-1d6b8:3b1
1d6ba-1d6c0:3c3 1d6c2-1d6d2:3b1 1d6d4-1d6da:3c3 1d6e2-1d6f2:3b1 1d6f4-1d6fa:3c3 1d6fc-1d70c:3b1
1d70e-1d714:3c3 1d71c-1d72c:3b1 1d72e-1d734:3c3 1d736-1d746:3b1 1d748-1d74e:3c3 1d756-1d766:3b1
1d768-1d76e:3c3 1d770-1d780:3b1 1d782-1d788:3c3 1d790-1d7a0:3b1 1d7a2-1d7a8:3c3 1d7aa-1d7ba:3b1
1d7bc-1d7c2:3c3 1d7ce-1d7d7:30 1d7d8-1d7e1:30 1d7e2-1d7eb:30 1d7ec-1d7f5:30 1d7f6-1d7ff:30
1e030-1e038:430 1e03c-1e046:43e 1e051-1e059:430 1e05f-1e064:443 1e900-1e921:1e922 1f130-1f149:61
1fbf0-1fbf9:30"

/-- Ranges in which every second character, from the first on, is replaced by the one after it. -/
def alternating : CharSet := .ofText "
100-12e 134-136 139-13d 141-147 14a-176 179-17d 182-184 1a0-1a4 1b3-1b5 1cd-1db 1de-1ee 1f8-21e
222-232 246-24e 370-372 3d8-3ee 460-480 48a-4be 4c1-4cd 4d0-52e 1e00-1e94 1ea0-1efe 2c67-2c6b
2c80-2ce2 2ceb-2ced a640-a66c a680-a69a a722-a72e a732-a76e a779-a77b a77e-a786 a790-a792
a796-a7a8 a7b4-a7c2 a7c7-a7c9 a7cc-a7da"

/-- The other characters that are replaced: a code point, and what it and those after it become. -/
def replacementLines : String := "
aa a
b2 2 3
b5 μ
b9 1 o
bc 1⁄4 1⁄2 3⁄4
130 i̇
132 ij ij
13f l· l·
149 ʼn
178 ÿ
17f s
181 ɓ
186 ɔ ƈ
189 ɖ ɗ ƌ
18e ǝ ə ɛ ƒ
193 ɠ ɣ
196 ɩ ɨ ƙ
19c ɯ ɲ
19f ɵ
1a6 ʀ ƨ
1a9 ʃ
1ac ƭ
1ae ʈ ư
1b1 ʊ ʋ
1b7 ʒ ƹ
1bc ƽ
1c4 dž dž dž lj lj lj nj nj nj
1f1 dz dz dz ǵ
1f6 ƕ ƿ
220 ƞ
23a ⱥ ȼ
23d ƚ ⱦ
241 ɂ
243 ƀ ʉ ʌ
2b0 h ɦ j r ɹ ɻ ʁ w y
2e0 ɣ l s x ʕ
340 ̀ ́
343 ̓ ̈́ ι
374 ʹ
376 ͷ
37e ; ϳ
386 ά · έ ή ί
38c ό
38e ύ ώ
3cf ϗ β θ υ ύ ϋ φ π
3f0 κ ρ σ
3f4 θ ε
3f7 ϸ
3f9 σ ϻ
3fd ͻ ͼ ͽ
4c0 ӏ
587 եւ
675 اٴ وٴ ۇٴ يٴ
958 क़ ख़ ग़ ज़ ड़ ढ़ फ़ य़
9dc ড় ঢ়
9df য়
a33 ਲ਼
a36 ਸ਼
a59 ਖ਼ ਗ਼ ਜ਼
a5e ਫ਼
b5c ଡ଼ ଢ଼
e33 ํา
eb3 ໍາ
edc ຫນ ຫມ
f0c ་
f43 གྷ
f4d ཌྷ
f52 དྷ
f57 བྷ
f5c ཛྷ
f69 ཀྵ
f73 ཱི
f75 ཱུ ྲྀ ྲཱྀ ླྀ ླཱྀ
f81 ཱྀ
f93 ྒྷ
f9d ྜྷ
fa2 ྡྷ
fa7 ྦྷ
fac ྫྷ
fb9 ྐྵ
10c7 ⴧ
10cd ⴭ
10fc ნ
1c80 в д о с т т ъ ѣ ꙋ ᲊ
1cbd ჽ ჾ ჿ
1d2c a æ b
1d30 d e ǝ
1d3c o ȣ p r t u w a ɐ ɑ ᴂ b d e ə ɛ ɜ g
1d4f k m ŋ o ɔ ᴖ ᴗ p t u ᴝ ɯ v ᴥ β γ δ φ χ i r u v β γ ρ φ χ
1d78 н
1d9b ɒ c ɕ ð ɜ f ɟ ɡ ɥ ɨ ɩ ɪ ᵻ ʝ ɭ ᶅ ʟ ɱ ɰ ɲ ɳ ɴ ɵ ɸ ʂ ʃ ƫ ʉ ʊ ᴜ ʋ ʌ z ʐ ʑ ʒ θ
1e9a aʾ ṡ
1e9e ß
1f59 ὑ
1f5b ὓ
1f5d ὕ
1f5f ὗ
1f71 ά
1f73 έ
1f75 ή
1f77 ί
1f79 ό
1f7b ύ
1f7d ώ
1f80 ἀι ἁι ἂι ἃι ἄι ἅι ἆι ἇι ἀι ἁι ἂι ἃι ἄι ἅι ἆι ἇι ἠι ἡι ἢι ἣι ἤι ἥι ἦι ἧι ἠι ἡι ἢι
1f9b ἣι ἤι ἥι ἦι ἧι ὠι ὡι ὢι ὣι ὤι ὥι ὦι ὧι ὠι ὡι ὢι ὣι ὤι ὥι ὦι ὧι
1fb2 ὰι αι άι
1fb7 ᾶι ᾰ ᾱ ὰ ά αι
1fbe ι
1fc2 ὴι ηι ήι
1fc7 ῆι ὲ έ ὴ ή ηι
1fd3 ΐ
1fd8 ῐ ῑ ὶ ί
1fe3 ΰ
1fe8 ῠ ῡ ὺ ύ ῥ
1fef `
1ff2 ὼι ωι ώι
1ff7 ῶι ὸ ό ὼ ώ ωι
2011 ‐
2033 ′′ ′′′
2036 ‵‵ ‵‵‵
203c !!
2057 ′′′′
2070 0 i
207a + − = ( ) n
208a + − = ( )
2090 a e o x ə h k l m n p s t
20a8 rs
2102 c °c
2107 ɛ
2109 °f g h h h h ħ i i l l
2115 n no
2119 p q r r r
2120 sm tel tm
2124 z
2126 ω
2128 z
212a k å b c
212f e e f ⅎ m o א ב ג ד i
213b fax π γ γ π ∑
2145 d d e i j
2150 1⁄7 1⁄9 1⁄10 1⁄3 2⁄3 1⁄5 2⁄5 3⁄5 4⁄5 1⁄6 5⁄6 1⁄8 3⁄8 5⁄8 7⁄8 1⁄ i ii iii iv v vi
2166 vii viii ix x xi xii l c d m i ii iii iv v vi vii viii ix x xi xii l c d m
2183 ↄ
2189 0⁄3
222c ∫∫ ∫∫∫
222f ∮∮ ∮∮∮
2329 〈 〉
2469 10 11 12 13 14 15 16 17 18 19 20 (1) (2) (3) (4) (5) (6) (7) (8) (9) (10) (11) (12)
2480 (13) (14) (15) (16) (17) (18) (19) (20)
249c (a) (b) (c) (d) (e) (f) (g) (h) (i) (j) (k) (l) (m) (n) (o) (p) (q) (r) (s) (t)
24b0 (u) (v) (w) (x) (y) (z)
24ea 0
2a0c ∫∫∫∫
2a75 == ===
2adc ⫝̸
2c60 ⱡ
2c62 ɫ ᵽ ɽ
2c6d ɑ ɱ ɐ ɒ
2c72 ⱳ
2c75 ⱶ
2c7c j v ȿ ɀ
2cf2 ⳳ
2d6f ⵡ
2e9f 母
2ef3 龟
2f00 一 丨 丶 丿 乙 亅 二 亠 人 儿 入 八 冂 冖 冫 几 凵 刀 力 勹 匕 匚 匸 十 卜 卩 厂 厶 又 口 囗 土 士 夂 夊 夕 大 女 子 宀
2f28 寸 小 尢 尸 屮 山 巛 工 己 巾 干 幺 广 廴 廾 弋 弓 彐 彡 彳 心 戈 戶 手 支 攴 文 斗 斤 方 无 日 曰 月 木 欠 止 歹 殳 毋
2f50 比 毛 氏 气 水 火 爪 父 爻 爿 片 牙 牛 犬 玄 玉 瓜 瓦 甘 生 用 田 疋 疒 癶 白 皮 皿 目 矛 矢 石 示 禸 禾 穴 立 竹 米 糸
2f78 缶 网 羊 羽 老 而 耒 耳 聿 肉 臣 自 至 臼 舌 舛 舟 艮 色 艸 虍 虫 血 行 衣 襾 見 角 言 谷 豆 豕 豸 貝 赤 走 足 身 車 辛
2fa0 辰 辵 邑 酉 釆 里 金 長 門 阜 隶 隹 雨 靑 非 面 革 韋 韭 音 頁 風 飛 食 首 香 馬 骨 高 髟 鬥 鬯 鬲 鬼 魚 鳥 鹵 鹿 麥 麻
2fc8 黃 黍 黑 黹 黽 鼎 鼓 鼠 鼻 齊 齒 龍 龜 龠
3002 .
3036 〒
3038 十 卄 卅
309f より
30ff コト
3131 ᄀ ᄁ ᆪ ᄂ ᆬ ᆭ ᄃ ᄄ ᄅ
3140 ᄚ ᄆ ᄇ ᄈ ᄡ
3165 ᄔ ᄕ ᇇ ᇈ ᇌ ᇎ ᇓ ᇗ ᇙ ᄜ ᇝ ᇟ ᄝ ᄞ ᄠ ᄢ ᄣ ᄧ ᄩ
317d ᄲ ᄶ ᅀ ᅇ ᅌ ᇱ ᇲ ᅗ ᅘ ᅙ ᆄ ᆅ ᆈ ᆑ ᆒ ᆔ ᆞ ᆡ
3192 一 二 三 四 上 中 下 甲 乙 丙 丁 天 地 人
3200 (ᄀ) (ᄂ) (ᄃ) (ᄅ) (ᄆ) (ᄇ) (ᄉ) (ᄋ) (ᄌ) (ᄎ) (ᄏ) (ᄐ) (ᄑ) (ᄒ) (가) (나) (다) (라) (마) (바)
3214 (사) (아) (자) (차) (카) (타) (파) (하) (주) (오전) (오후)
3220 (一) (二) (三) (四) (五) (六) (七) (八) (九) (十) (月) (火) (水) (木) (金) (土) (日) (株) (有) (社)
3234 (名) (特) (財) (祝) (労) (代) (呼) (学) (監) (企) (資) (協) (祭) (休) (自) (至) 問 幼 文 箏
3250 pte 21 22 23 24 25 26 27 28 29 30 31 32 33 34 35 ᄀ ᄂ ᄃ ᄅ ᄆ ᄇ ᄉ ᄋ ᄌ
326e 가 나 다 라 마 바 사 아 자 차 카 타 파 하 참고 주의 우
3280 一 二 三 四 五 六 七 八 九 十 月 火 水 木 金 土 日 株 有 社 名 特 財 祝 労 秘 男 女 適 優 印 注 項 休 写 正 上 中 下 左
32a8 右 医 宗 学 監 企 資 協 夜 36 37 38 39 40 41 42 43 44 45 46 47 48 49 50 1月 2月 3月 4月 5月 6月
32c6 7月 8月 9月 10月 11月 12月 hg erg ev ltd ア イ ウ エ オ カ キ ク ケ コ サ シ ス セ ソ タ チ ツ テ ト
32ea ヒ フ ヘ ホ
32f3 ヤ ユ
32fb ワ ヰ ヱ ヲ 令和 アパート アルファ アンペア アール イニング インチ ウォン エスクード エーカー オンス オーム カイリ カラット カロリー ガロン
330f ガンマ ギガ ギニー キュリー ギルダー キロ キログラム キロメートル キロワット グラム グラムトン クルゼイロ クローネ ケース コルナ コーポ サイクル
3320 サンチーム シリング センチ セント ダース デシ ドル トン ナノ ノット ハイツ パーセント パーツ バーレル ピアストル ピクル ピコ ビル ファラッド
3333 フィート ブッシェル フラン ヘクタール ペソ ペニヒ ヘルツ ペンス ページ ベータ ポイント ボルト ホン ポンド ホール ホーン マイクロ マイル マッハ
3346 マルク マンション ミクロン ミリ ミリバール メガ メガトン メートル ヤード ヤール ユアン リットル リラ ルピー ルーブル レム レントゲン ワット 0点
3359 1点 2点 3点 4点 5点 6点 7点 8点 9点 10点 11点 12点 13点 14点 15点 16点 17点 18点 19点 20点 21点 22点 23点
3370 24点 hpa da au bar ov pc dm dm2 dm3 iu 平成 昭和 大正 明治 株式会社 pa na μa ma ka kb mb gb cal
3389 kcal pf nf μf μg mg kg hz khz mhz ghz thz μl ml dl kl fm nm μm mm cm km mm2 cm2
33a1 m2 km2 mm3 cm3 m3 km3 m∕s m∕s2 pa kpa mpa gpa rad rad∕s rad∕s2 ps ns μs ms pv nv
33b6 μv mv kv mv pw nw μw mw kw mw kω mω
33c3 bq cc cd c∕kg
33c8 db gy ha hp in kk km kt lm ln log lx mb mil mol ph
33d9 ppm pr sr sv wb v∕m a∕m 1日 2日 3日 4日 5日 6日 7日 8日 9日 10日 11日 12日 13日 14日 15日 16日 17日
33f1 18日 19日 20日 21日 22日 23日 24日 25日 26日 27日 28日 29日 30日 31日 gal
a69c ъ ь
a770 ꝯ
a77d ᵹ
a78b ꞌ
a78d ɥ
a7aa ɦ ɜ ɡ ɬ ɪ
a7b0 ʞ ʇ ʝ ꭓ
a7c4 ꞔ ʂ ᶎ
a7cb ɤ
a7dc ƛ
a7f1 s c f q ꟶ
a7f8 ħ œ
ab5c ꜧ ꬷ ɫ ꭒ
ab69 ʍ
f900 豈 更 車 賈 滑 串 句 龜 龜 契 金 喇 奈 懶 癩 羅 蘿 螺 裸 邏 樂 洛 烙 珞 落 酪 駱 亂 卵 欄 爛 蘭 鸞 嵐 濫 藍 襤 拉 臘 蠟
f928 廊 朗 浪 狼 郎 來 冷 勞 擄 櫓 爐 盧 老 蘆 虜 路 露 魯 鷺 碌 祿 綠 菉 錄 鹿 論 壟 弄 籠 聾 牢 磊 賂 雷 壘 屢 樓 淚 漏 累
f950 縷 陋 勒 肋 凜 凌 稜 綾 菱 陵 讀 拏 樂 諾 丹 寧 怒 率 異 北 磻 便 復 不 泌 數 索 參 塞 省 葉 說 殺 辰 沈 拾 若 掠 略 亮
f978 兩 凉 梁 糧 良 諒 量 勵 呂 女 廬 旅 濾 礪 閭 驪 麗 黎 力 曆 歷 轢 年 憐 戀 撚 漣 煉 璉 秊 練 聯 輦 蓮 連 鍊 列 劣 咽 烈
f9a0 裂 說 廉 念 捻 殮 簾 獵 令 囹 寧 嶺 怜 玲 瑩 羚 聆 鈴 零 靈 領 例 禮 醴 隸 惡 了 僚 寮 尿 料 樂 燎 療 蓼 遼 龍 暈 阮 劉
f9c8 杻 柳 流 溜 琉 留 硫 紐 類 六 戮 陸 倫 崙 淪 輪 律 慄 栗 率 隆 利 吏 履 易 李 梨 泥 理 痢 罹 裏 裡 里 離 匿 溺 吝 燐 璘
f9f0 藺 隣 鱗 麟 林 淋 臨 立 笠 粒 狀 炙 識 什 茶 刺 切 度 拓 糖 宅 洞 暴 輻 行 降 見 廓 兀 嗀
fa10 塚
fa12 晴
fa15 凞 猪 益 礼 神 祥 福 靖 精 羽
fa20 蘒
fa22 諸
fa25 逸 都
fa2a 飯 飼 館 鶴 郞 隷 侮 僧 免 勉 勤 卑 喝 嘆 器 塀 墨 層 屮 悔 慨 憎 懲 敏 既 暑 梅 海 渚 漢 煮 爫 琢 碑 社 祉 祈 祐 祖 祝
fa52 禍 禎 穀 突 節 練 縉 繁 署 者 臭 艹 艹 著 褐 視 謁 謹 賓 贈 辶 逸 難 響 頻 恵 𤋮 舘
fa70 並 况 全 侀 充 冀 勇 勺 喝 啕 喙 嗢 塚 墳 奄 奔 婢 嬨 廒 廙 彩 徭 惘 慎 愈 憎 慠 懲 戴 揄 搜 摒 敖 晴 朗 望 杖 歹 殺 流
fa98 滛 滋 漢 瀞 煮 瞧 爵 犯 猪 瑱 甆 画 瘝 瘟 益 盛 直 睊 着 磌 窱 節 类 絛 練 缾 者 荒 華 蝹 襁 覆 視 調 諸 請 謁 諾 諭 謹
fac0 變 贈 輸 遲 醙 鉶 陼 難 靖 韛 響 頋 頻 鬒 龜 𢡊 𢡄 𣏕 㮝 䀘 䀹 𥉉 𥳐 𧻓 齃 龎
fb00 ff fi fl ffi ffl st st
fb13 մն մե մի վն մխ
fb1d יִ
fb1f ײַ ע א ד ה כ ל ם ר ת + שׁ שׂ שּׁ שּׂ אַ אָ אּ בּ גּ דּ הּ וּ זּ
fb38 טּ יּ ךּ כּ לּ
fb3e מּ
fb40 נּ סּ
fb43 ףּ פּ
fb46 צּ קּ רּ שּ תּ וֹ בֿ כֿ פֿ אל ٱ ٱ ٻ ٻ ٻ ٻ پ پ پ پ ڀ ڀ ڀ ڀ ٺ ٺ ٺ ٺ ٿ ٿ ٿ ٿ ٹ ٹ ٹ
fb69 ٹ ڤ ڤ ڤ ڤ ڦ ڦ ڦ ڦ ڄ ڄ ڄ ڄ ڃ ڃ ڃ ڃ چ چ چ چ ڇ ڇ ڇ ڇ ڍ ڍ ڌ ڌ ڎ ڎ ڈ ڈ ژ ژ ڑ ڑ ک ک ک
fb91 ک گ گ گ گ ڳ ڳ ڳ ڳ ڱ ڱ ڱ ڱ ں ں ڻ ڻ ڻ ڻ ۀ ۀ ہ ہ ہ ہ ھ ھ ھ ھ ے ے ۓ ۓ
fbd3 ڭ ڭ ڭ ڭ ۇ ۇ ۆ ۆ ۈ ۈ ۇٴ ۋ ۋ ۅ ۅ ۉ ۉ ې ې ې ې ى ى ئا ئا ئە ئە ئو ئو ئۇ ئۇ ئۆ ئۆ ئۈ
fbf5 ئۈ ئې ئې ئې ئى ئى ئى ی ی ی ی ئج ئح ئم ئى ئي بج بح بخ بم بى بي تج تح تخ تم تى تي
fc11 ثج ثم ثى ثي جح جم حج حم خج خح خم سج سح سخ سم صح صم ضج ضح ضخ ضم طح طم ظم عج عم غج
fc2c غم فج فح فخ فم فى في قح قم قى قي كا كج كح كخ كل كم كى كي لج لح لخ لم لى لي مج مح
fc47 مخ مم مى مي نج نح نخ نم نى ني هج هم هى هي يج يح يخ يم يى يي ذٰ رٰ ىٰ
fc64 ئر ئز ئم ئن ئى ئي بر بز بم بن بى بي تر تز تم تن تى تي ثر ثز ثم ثن ثى ثي فى في قى
fc7f قي كا كل كم كى كي لم لى لي ما مم نر نز نم نن نى ني ىٰ ير يز يم ين يى يي ئج ئح ئخ
fc9a ئم ئه بج بح بخ بم به تج تح تخ تم ته ثم جح جم حج حم خج خم سج سح سخ سم صح صخ صم ضج
fcb5 ضح ضخ ضم طح ظم عج عم غج غم فج فح فخ فم قح قم كج كح كخ كل كم لج لح لخ لم له مج مح
fcd0 مخ مم نج نح نخ نم نه هج هم هٰ يج يح يخ يم يه ئم ئه بم به تم ته ثم ثه سم سه شم شه
fceb كل كم لم نم نه يم يه ـَّ ـُّ ـِّ طى طي عى عي غى غي سى سي شى شي حى حي جى جي خى خي
fd05 صى صي ضى ضي شج شح شخ شم شر سر صر ضر طى طي عى عي غى غي سى سي شى شي حى حي جى جي خى
fd20 خي صى صي ضى ضي شج شح شخ شم شر سر صر ضر شج شح شخ شم سه شه طم سج سح سخ شج شح شخ طم
fd3b ظم اً اً
fd50 تجم تحج تحج تحم تخم تمج تمح تمخ جمح جمح حمي حمى سحج سجح سجى سمح سمح سمج سمم سمم
fd64 صحح صحح صمم شحم شحم شجي شمخ شمخ شمم شمم ضحى ضخم ضخم طمح طمح طمم طمي عجم عمم عمم
fd78 عمى غمم غمي غمى فخم فخم قمح قمم لحم لحي لحى لجج لجج لخم لخم لمح لمح محج محم محي
fd8c مجح مجم مخج مخم
fd92 مجخ همج همم نحم نحى نجم نجم نجى نمي نمى يمم يمم بخي تجي تجى تخي تخى تمي تمى جمي
fda6 جحى جمى سخى صحي شحي ضحي لجي لمي يحي يجي يمي ممي قمي نحي قمح لحم عمي كمي نجح مخي
fdba لجم كمم لجم نجح جحي حجي مجي فمي بحي كمم عجم صمم سخي نجي
fdf0 صلے قلے الله اكبر محمد صلعم رسول عليه وسلم صلى
fdfc ریال
fe10 , 、
fe14 ; !
fe17 〖 〗
fe31 — – _ _ ( ) \x7b \x7d 〔 〕 【 】 《 》 〈 〉 「 」 『 』
fe4d _ _ _ , 、
fe54 ;
fe57 ! — ( ) \x7b \x7d 〔 〕
fe60 & * + - < > =
fe69 $
fe71 ـً
fe77 ـَ
fe79 ـُ
fe7b ـِ
fe7d ـّ
fe7f ـْ ء آ آ أ أ ؤ ؤ إ إ ئ ئ ئ ئ ا ا ب ب ب ب ة ة ت ت ت ت ث ث ث ث ج ج ج ج ح ح ح ح خ خ
fea7 خ خ د د ذ ذ ر ر ز ز س س س س ش ش ش ش ص ص ص ص ض ض ض ض ط ط ط ط ظ ظ ظ ظ ع ع ع ع غ غ
fecf غ غ ف ف ف ف ق ق ق ق ك ك ك ك ل ل ل ل م م م م ن ن ن ن ه ه ه ه و و ى ى ي ي ي ي لآ لآ
fef7 لأ لأ لإ لإ لا لا
ff01 ! \"
ff04 $
ff1b ; < = >
ff5d \x7d ~ ⦅ ⦆ . 「 」 、 ・ ヲ ァ ィ ゥ ェ ォ ャ ュ ョ ッ ー ア イ ウ エ オ カ キ ク ケ コ サ シ ス セ ソ タ チ ツ テ ト
ff8b ヒ フ ヘ ホ
ff94 ヤ ユ
ff9c ワ ン ゙ ゚
ffa1 ᄀ ᄁ ᆪ ᄂ ᆬ ᆭ ᄃ ᄄ ᄅ
ffb0 ᄚ ᄆ ᄇ ᄈ ᄡ
ffda ᅳ ᅴ ᅵ
ffe0 ¢ £ ¬
ffe4 ¦ ¥ ₩
ffe8 │ ← ↑ → ↓ ■ ○
10594 𐖻 𐖼
10781 ː ˑ æ ʙ ɓ
10787 ʣ ꭦ ʥ ʤ ɖ ɗ ᶑ ɘ ɞ ʩ ɤ ɢ ɠ ʛ ħ ʜ ɧ ʄ ʪ ʫ ɬ 𝼄 ꞎ ɮ 𝼅 ʎ 𝼆 ø ɶ ɷ q ɺ 𝼈 ɽ ɾ ʀ ʨ ʦ ꭧ ʧ
107af ʈ ⱱ
107b2 ʏ ʡ ʢ ʘ ǀ ǁ ǂ 𝼊 𝼞
1d15e 𝅗𝅥 𝅘𝅥 𝅘𝅥𝅮 𝅘𝅥𝅯 𝅘𝅥𝅰 𝅘𝅥𝅱 𝅘𝅥𝅲
1d1bb 𝆹𝅥 𝆺𝅥 𝆹𝅥𝅮 𝆺𝅥𝅮 𝆹𝅥𝅯 𝆺𝅥𝅯
1d49c a
1d49e c d
1d4a2 g
1d4a5 j k
1d4a9 n o p q
1d4b6 a b c d
1d4bb f
1d504 a b
1d507 d e f g
1d538 a b
1d53b d e f g
1d546 o
1d6a4 ı ȷ
1d6b9 θ
1d6c1 ∇
1d6d3 σ
1d6db ∂ ε θ κ φ ρ π
1d6f3 θ
1d6fb ∇
1d70d σ
1d715 ∂ ε θ κ φ ρ π
1d72d θ
1d735 ∇
1d747 σ
1d74f ∂ ε θ κ φ ρ π
1d767 θ
1d76f ∇
1d781 σ
1d789 ∂ ε θ κ φ ρ π
1d7a1 θ
1d7a9 ∇
1d7bb σ
1d7c3 ∂ ε θ κ φ ρ π ϝ ϝ
1e039 к л м
1e047 ы э ю ꚉ ә і ј ө ү ӏ
1e05a к л о п с
1e065 ъ ы ґ і ѕ џ ҫ ꙑ ұ
1ee00 ا ب ج د
1ee05 و ز ح ط ي ك ل م ن س ع ف ص ق ر ش ت ث خ ذ ض ظ غ ٮ ں ڡ ٯ
1ee21 ب ج
1ee24 ه
1ee27 ح
1ee29 ي ك ل م ن س ع ف ص ق
1ee34 ش ت ث خ
1ee39 ض
1ee3b غ
1ee42 ج
1ee47 ح
1ee49 ي
1ee4b ل
1ee4d ن س ع
1ee51 ص ق
1ee54 ش
1ee57 خ
1ee59 ض
1ee5b غ
1ee5d ں
1ee5f ٯ
1ee61 ب ج
1ee64 ه
1ee67 ح ط ي ك
1ee6c م ن س ع ف ص ق
1ee74 ش ت ث خ
1ee79 ض ظ غ ٮ
1ee7e ڡ
1ee80 ا ب ج د ه و ز ح ط ي
1ee8b ل م ن س ع ف ص ق ر ش ت ث خ ذ ض ظ غ
1eea1 ب ج د
1eea5 و ز ح ط ي
1eeab ل م ن س ع ف ص ق ر ش ت ث خ ذ ض ظ غ
1f101 0, 1, 2, 3, 4, 5, 6, 7, 8, 9,
1f110 (a) (b) (c) (d) (e) (f) (g) (h) (i) (j) (k) (l) (m) (n) (o) (p) (q) (r) (s) (t)
1f124 (u) (v) (w) (x) (y) (z) 〔s〕 c r cd wz
1f14a hv mv sd ss ppv wc
1f16a mc md mr
1f190 dj
1f200 ほか ココ サ
1f210 手 字 双 デ 二 多 解 天 交 映 無 料 前 後 再 新 初 終 生 販 声 吹 演 投 捕 一 三 遊 左 中 右 指 走 打 禁 空 合 満 有 月
1f238 申 割 営 配
1f240 〔本〕 〔三〕 〔二〕 〔安〕 〔点〕 〔打〕 〔盗〕 〔勝〕 〔敗〕
1f250 得 可
2f800 丽 丸 乁 𠄢 你 侮 侻 倂 偺 備 僧 像 㒞 𠘺 免 兔 兤 具 𠔜 㒹 內 再 𠕋 冗 冤 仌 冬 况 𩇟 凵 刃 㓟 刻 剆 割 剷 㔕 勇 勉 勤
2f828 勺 包 匆 北 卉 卑 博 即 卽 卿 卿 卿 𠨬 灰 及 叟 𠭣 叫 叱 吆 咞 吸 呈 周 咢 哶 唐 啓 啣 善 善 喙 喫 喳 嗂 圖 嘆 圗 噑 噴
2f850 切 壮 城 埴 堍 型 堲 報 墬 𡓤 売 壷 夆 多 夢 奢 𡚨 𡛪 姬 娛 娧 姘 婦 㛮 㛼 嬈 嬾 嬾 𡧈 寃 寘 寧 寳 𡬘 寿 将 当 尢 㞁 屠
2f878 屮 峀 岍 𡷤 嵃 𡷦 嵮 嵫 嵼 巡 巢 㠯 巽 帨 帽 幩 㡢 𢆃 㡼 庰 庳 庶 廊 𪎒 廾 𢌱 𢌱 舁 弢 弢 㣇 𣊸 𦇚 形 彫 㣣 徚 忍 志 忹
2f8a0 悁 㤺 㤜 悔 𢛔 惇 慈 慌 慎 慌 慺 憎 憲 憤 憯 懞 懲 懶 成 戛 扝 抱 拔 捐 𢬌 挽 拼 捨 掃 揤 𢯱 搢 揅 掩 㨮 摩 摾 撝 摷 㩬
2f8c8 敏 敬 𣀊 旣 書 晉 㬙 暑 㬈 㫤 冒 冕 最 暜 肭 䏙 朗 望 朡 杞 杓 𣏃 㭉 柺 枅 桒 梅 𣑭 梎 栟 椔 㮝 楂 榣 槪 檨 𣚣 櫛 㰘 次
2f8f0 𣢧 歔 㱎 歲 殟 殺 殻 𣪍 𡴋 𣫺 汎 𣲼 沿 泍 汧 洖 派 海 流 浩 浸 涅 𣴞 洴 港 湮 㴳 滋 滇 𣻑 淹 潮 𣽞 𣾎 濆 瀹 瀞 瀛 㶖 灊
2f918 災 灷 炭 𠔥 煅 𤉣 熜 𤎫 爨 爵 牐 𤘈 犀 犕 𤜵 𤠔 獺 王 㺬 玥 㺸 㺸 瑇 瑜 瑱 璅 瓊 㼛 甤 𤰶 甾 𤲒 異 𢆟 瘐 𤾡 𤾸 𥁄 㿼 䀈
2f940 直 𥃳 𥃲 𥄙 𥄳 眞 真 真 睊 䀹 瞋 䁆 䂖 𥐝 硎 碌 磌 䃣 𥘦 祖 𥚚 𥛅 福 秫 䄯 穀 穊 穏 𥥼 𥪧 𥪧 竮 䈂 𥮫 篆 築 䈧 𥲀 糒 䊠
2f968 糨 糣 紀 𥾆 絣 䌁 緇 縂 繅 䌴 𦈨 𦉇 䍙 𦋙 罺 𦌾 羕 翺 者 𦓚 𦔣 聠 𦖨 聰 𣍟 䏕 育 脃 䐋 脾 媵 𦞧 𦞵 𣎓 𣎜 舁 舄 辞 䑫 芑
2f990 芋 芝 劳 花 芳 芽 苦 𦬼 若 茝 荣 莭 茣 莽 菧 著 荓 菊 菌 菜 𦰶 𦵫 𦳕 䔫 蓱 蓳 蔖 𧏊 蕤 𦼬 䕝 䕡 𦾱 𧃒 䕫 虐 虜 虧 虩 蚩
2f9b8 蚈 蜎 蛢 蝹 蜨 蝫 螆 䗗 蟡 蠁 䗹 衠 衣 𧙧 裗 裞 䘵 裺 㒻 𧢮 𧥦 䚾 䛇 誠 諭 變 豕 𧲨 貫 賁 贛 起 𧼯 𠠄 跋 趼 跰 𠣞 軔 輸
2f9e0 𨗒 𨗭 邔 郱 鄑 𨜮 鄛 鈸 鋗 鋘 鉼 鏹 鐕 𨯺 開 䦕 閷 𨵷 䧦 雃 嶲 霣 𩅅 𩈚 䩮 䩶 韠 𩐊 䪲 𩒖 頋 頋 頩 𩖶 飢 䬳 餩 馧 駂 駾
2fa08 䯎 𩬰 鬒 鱀 鳽 䳎 䳭 鵧 𪃎 䳸 𪄅 𪈎 𪊑 麻 䵖 黹 黾 鼅 鼏 鼖 鼻 𪘀"

/-- Characters that a name is read without. -/
def dropped : CharSet := .ofText "
ad 34f 115f-1160 17b4-17b5 180b-180f 200b 2060-2064 206a-206f 3164 fe00-fe0f feff ffa0 1bca0-1bca3
1d173-1d17a e0100-e01ef"

/-- Characters beyond ASCII that may occur in a name as it is given. -/
def admitted : CharSet := .ofText "
a1-a7 a9-ae b0-b3 b5-b7 b9-2d7 2de-377 37b-37f 386-38a 38c 38e-3a1 3a3-52f 531-556 559-58a 58d-58f
591-5c7 5d0-5ea 5ef-5f4 606-61b 61d-6dc 6de-70d 710-74a 74d-7b1 7c0-7fa 7fd-82d 830-83e 840-85b
85e 860-86a 870-88f 897-8e1 8e3-983 985-98c 98f-990 993-9a8 9aa-9b0 9b2 9b6-9b9 9bc-9c4 9c7-9c8
9cb-9ce 9d7 9dc-9dd 9df-9e3 9e6-9fe a01-a03 a05-a0a a0f-a10 a13-a28 a2a-a30 a32-a33 a35-a36
a38-a39 a3c a3e-a42 a47-a48 a4b-a4d a51 a59-a5c a5e a66-a76 a81-a83 a85-a8d a8f-a91 a93-aa8
aaa-ab0 ab2-ab3 ab5-ab9 abc-ac5 ac7-ac9 acb-acd ad0 ae0-ae3 ae6-af1 af9-aff b01-b03 b05-b0c
b0f-b10 b13-b28 b2a-b30 b32-b33 b35-b39 b3c-b44 b47-b48 b4b-b4d b55-b57 b5c-b5d b5f-b63 b66-b77
b82-b83 b85-b8a b8e-b90 b92-b95 b99-b9a b9c b9e-b9f ba3-ba4 ba8-baa bae-bb9 bbe-bc2 bc6-bc8
bca-bcd bd0 bd7 be6-bfa c00-c0c c0e-c10 c12-c28 c2a-c39 c3c-c44 c46-c48 c4a-c4d c55-c56 c58-c5a
c5c-c5d c60-c63 c66-c6f c77-c8c c8e-c90 c92-ca8 caa-cb3 cb5-cb9 cbc-cc4 cc6-cc8 cca-ccd cd5-cd6
cdc-cde ce0-ce3 ce6-cef cf1-cf3 d00-d0c d0e-d10 d12-d44 d46-d48 d4a-d4f d54-d63 d66-d7f d81-d83
d85-d96 d9a-db1 db3-dbb dbd dc0-dc6 dca dcf-dd4 dd6 dd8-ddf de6-def df2-df4 e01-e3a e3f-e5b
e81-e82 e84 e86-e8a e8c-ea3 ea5 ea7-ebd ec0-ec4 ec6 ec8-ece ed0-ed9 edc-edf f00-f47 f49-f6c
f71-f97 f99-fbc fbe-fcc fce-fda 1000-10c5 10c7 10cd 10d0-1248 124a-124d 1250-1256 1258 125a-125d
1260-1288 128a-128d 1290-12b0 12b2-12b5 12b8-12be 12c0 12c2-12c5 12c8-12d6 12d8-1310 1312-1315
1318-135a 135d-137c 1380-1399 13a0-13f5 13f8-13fd 1400-167f 1681-169c 16a0-16f8 1700-1715
171f-1736 1740-1753 1760-176c 176e-1770 1772-1773 1780-17dd 17e0-17e9 17f0-17f9 1800-1819
1820-1878 1880-18aa 18b0-18f5 1900-191e 1920-192b 1930-193b 1940 1944-196d 1970-1974 1980-19ab
19b0-19c9 19d0-19da 19de-1a1b 1a1e-1a5e 1a60-1a7c 1a7f-1a89 1a90-1a99 1aa0-1aad 1ab0-1add
1ae0-1aeb 1b00-1b4c 1b4e-1bf3 1bfc-1c37 1c3b-1c49 1c4d-1c8a 1c90-1cba 1cbd-1cc7 1cd0-1cfa
1d00-1f15 1f18-1f1d 1f20-1f45 1f48-1f4d 1f50-1f57 1f59 1f5b 1f5d 1f5f-1f7d 1f80-1fb4 1fb6-1fbc
1fbe 1fc2-1fc4 1fc6-1fcc 1fd0-1fd3 1fd6-1fdb 1fe0-1fec 1fef 1ff2-1ff4 1ff6-1ffc 200b-200d
2010-2016 2018-2023 2027 2030-203d 203f-2046 204a-205e 2060-2064 206a-2071 2074-208e 2090-209c
20a0-20c1 20d0-20f0 2102-2104 2107-218b 2190-2429 2440-244a 2460-2487 249c-2a73 2a75-2b73
2b76-2cf3 2cf9-2d25 2d27 2d2d 2d30-2d67 2d6f-2d70 2d7f-2d96 2da0-2da6 2da8-2dae 2db0-2db6
2db8-2dbe 2dc0-2dc6 2dc8-2dce 2dd0-2dd6 2dd8-2dde 2de0-2e5d 2e80-2e99 2e9b-2ef3 2f00-2fd5
3001-303f 3041-3096 3099-309a 309d-30ff 3105-312f 3131-318e 3190-31e5 31f0-321e 3220-33c1
33c3-33c6 33c8-33d7 33d9-a48c a490-a4c6 a4d0-a62b a640-a6f7 a700-a7dc a7f1-a82c a830-a839
a840-a877 a880-a8c5 a8ce-a8d9 a8e0-a953 a95f-a97c a980-a9cd a9cf-a9d9 a9de-a9fe aa00-aa36
aa40-aa4d aa50-aa59 aa5c-aac2 aadb-aaf6 ab01-ab06 ab09-ab0e ab11-ab16 ab20-ab26 ab28-ab2e
ab30-ab6b ab70-abed abf0-abf9 ac00-d7a3 d7b0-d7c6 d7cb-d7fb f900-fa6d fa70-fad9 fb00-fb06
fb13-fb17 fb1d-fb36 fb38-fb3c fb3e fb40-fb41 fb43-fb44 fb46-fc5d fc64-fdcf fdf0-fdf9 fdfc-fe11
fe14-fe15 fe17-fe18 fe20-fe2f fe31-fe46 fe4d-fe51 fe54 fe57-fe5e fe60-fe66 fe69 fe71 fe73 fe77
fe79 fe7b fe7d fe7f-fefc feff ff01-ff02 ff04 ff06-ff0e ff10-ff19 ff1b-ff1e ff21-ff3a ff3f-ff5b
ff5d-ffbe ffc2-ffc7 ffca-ffcf ffd2-ffd7 ffda-ffdc ffe0-ffe2 ffe4-ffe6 ffe8-ffee 10000-1000b
1000d-10026 10028-1003a 1003c-1003d 1003f-1004d 10050-1005d 10080-100fa 10100-10102 10107-10133
10137-1018e 10190-1019c 101a0 101d0-101fd 10280-1029c 102a0-102d0 102e0-102fb 10300-10323
1032d-1034a 10350-1037a 10380-1039d 1039f-103c3 103c8-103d5 10400-1049d 104a0-104a9 104b0-104d3
104d8-104fb 10500-10527 10530-10563 1056f-1057a 1057c-1058a 1058c-10592 10594-10595 10597-105a1
105a3-105b1 105b3-105b9 105bb-105bc 105c0-105f3 10600-10736 10740-10755 10760-10767 10780-10785
10787-107b0 107b2-107ba 10800-10805 10808 1080a-10835 10837-10838 1083c 1083f-10855 10857-1089e
108a7-108af 108e0-108f2 108f4-108f5 108fb-1091b 1091f-10939 1093f-10959 10980-109b7 109bc-109cf
109d2-10a03 10a05-10a06 10a0c-10a13 10a15-10a17 10a19-10a35 10a38-10a3a 10a3f-10a48 10a50-10a58
10a60-10a9f 10ac0-10ae6 10aeb-10af6 10b00-10b35 10b39-10b55 10b58-10b72 10b78-10b91 10b99-10b9c
10ba9-10baf 10c00-10c48 10c80-10cb2 10cc0-10cf2 10cfa-10d27 10d30-10d39 10d40-10d65 10d69-10d85
10d8e-10d8f 10e60-10e7e 10e80-10ea9 10eab-10ead 10eb0-10eb1 10ec2-10ec7 10ed0-10ed8 10efa-10f27
10f30-10f59 10f70-10f89 10fb0-10fcb 10fe0-10ff6 11000-1104d 11052-11075 1107f-110bc 110be-110c2
110d0-110e8 110f0-110f9 11100-11134 11136-11147 11150-11176 11180-111df 111e1-111f4 11200-11211
11213-11241 11280-11286 11288 1128a-1128d 1128f-1129d 1129f-112a9 112b0-112ea 112f0-112f9
11300-11303 11305-1130c 1130f-11310 11313-11328 1132a-11330 11332-11333 11335-11339 1133b-11344
11347-11348 1134b-1134d 11350 11357 1135d-11363 11366-1136c 11370-11374 11380-11389 1138b 1138e
11390-113b5 113b7-113c0 113c2 113c5 113c7-113ca 113cc-113d5 113d7-113d8 113e1-113e2 11400-1145b
1145d-11461 11480-114c7 114d0-114d9 11580-115b5 115b8-115dd 11600-11644 11650-11659 11660-1166c
11680-116b9 116c0-116c9 116d0-116e3 11700-1171a 1171d-1172b 11730-11746 11800-1183b 118a0-118f2
118ff-11906 11909 1190c-11913 11915-11916 11918-11935 11937-11938 1193b-11946 11950-11959
119a0-119a7 119aa-119d7 119da-119e4 11a00-11a47 11a50-11aa2 11ab0-11af8 11b00-11b09 11b60-11b67
11bc0-11be1 11bf0-11bf9 11c00-11c08 11c0a-11c36 11c38-11c45 11c50-11c6c 11c70-11c8f 11c92-11ca7
11ca9-11cb6 11d00-11d06 11d08-11d09 11d0b-11d36 11d3a 11d3c-11d3d 11d3f-11d47 11d50-11d59
11d60-11d65 11d67-11d68 11d6a-11d8e 11d90-11d91 11d93-11d98 11da0-11da9 11db0-11ddb 11de0-11de9
11ee0-11ef8 11f00-11f10 11f12-11f3a 11f3e-11f5a 11fb0 11fc0-11ff1 11fff-12399 12400-1246e
12470-12474 12480-12543 12f90-12ff2 13000-1342f 13440-13455 13460-143fa 14400-14646 16100-16139
16800-16a38 16a40-16a5e 16a60-16a69 16a6e-16abe 16ac0-16ac9 16ad0-16aed 16af0-16af5 16b00-16b45
16b50-16b59 16b5b-16b61 16b63-16b77 16b7d-16b8f 16d40-16d79 16e40-16e9a 16ea0-16eb8 16ebb-16ed3
16f00-16f4a 16f4f-16f87 16f8f-16f9f 16fe0-16fe4 16ff0-16ff6 17000-18cd5 18cff-18d1e 18d80-18df2
1aff0-1aff3 1aff5-1affb 1affd-1affe 1b000-1b122 1b132 1b150-1b152 1b155 1b164-1b167 1b170-1b2fb
1bc00-1bc6a 1bc70-1bc7c 1bc80-1bc88 1bc90-1bc99 1bc9c-1bca3 1cc00-1ccfc 1cd00-1ceb3 1ceba-1ced0
1cee0-1cef0 1cf00-1cf2d 1cf30-1cf46 1cf50-1cfc3 1d000-1d0f5 1d100-1d126 1d129-1d1ea 1d200-1d245
1d2c0-1d2d3 1d2e0-1d2f3 1d300-1d356 1d360-1d378 1d400-1d454 1d456-1d49c 1d49e-1d49f 1d4a2
1d4a5-1d4a6 1d4a9-1d4ac 1d4ae-1d4b9 1d4bb 1d4bd-1d4c3 1d4c5-1d505 1d507-1d50a 1d50d-1d514
1d516-1d51c 1d51e-1d539 1d53b-1d53e 1d540-1d544 1d546 1d54a-1d550 1d552-1d6a5 1d6a8-1d7cb
1d7ce-1da8b 1da9b-1da9f 1daa1-1daaf 1df00-1df1e 1df25-1df2a 1e000-1e006 1e008-1e018 1e01b-1e021
1e023-1e024 1e026-1e02a 1e030-1e06d 1e08f 1e100-1e12c 1e130-1e13d 1e140-1e149 1e14e-1e14f
1e290-1e2ae 1e2c0-1e2f9 1e2ff 1e4d0-1e4f9 1e5d0-1e5fa 1e5ff 1e6c0-1e6de 1e6e0-1e6f5 1e6fe-1e6ff
1e7e0-1e7e6 1e7e8-1e7eb 1e7ed-1e7ee 1e7f0-1e7fe 1e800-1e8c4 1e8c7-1e8d6 1e900-1e94b 1e950-1e959
1e95e-1e95f 1ec71-1ecb4 1ed01-1ed3d 1ee00-1ee03 1ee05-1ee1f 1ee21-1ee22 1ee24 1ee27 1ee29-1ee32
1ee34-1ee37 1ee39 1ee3b 1ee42 1ee47 1ee49 1ee4b 1ee4d-1ee4f 1ee51-1ee52 1ee54 1ee57 1ee59 1ee5b
1ee5d 1ee5f 1ee61-1ee62 1ee64 1ee67-1ee6a 1ee6c-1ee72 1ee74-1ee77 1ee79-1ee7c 1ee7e 1ee80-1ee89
1ee8b-1ee9b 1eea1-1eea3 1eea5-1eea9 1eeab-1eebb 1eef0-1eef1 1f000-1f02b 1f030-1f093 1f0a0-1f0ae
1f0b1-1f0bf 1f0c1-1f0cf 1f0d1-1f0f5 1f101-1f1ad 1f1e6-1f202 1f210-1f23b 1f240-1f248 1f250-1f251
1f260-1f265 1f300-1f6d8 1f6dc-1f6ec 1f6f0-1f6fc 1f700-1f7d9 1f7e0-1f7eb 1f7f0 1f800-1f80b
1f810-1f847 1f850-1f859 1f860-1f887 1f890-1f8ad 1f8b0-1f8bb 1f8c0-1f8c1 1f8d0-1f8d8 1f900-1fa57
1fa60-1fa6d 1fa70-1fa7c 1fa80-1fa8a 1fa8e-1fac6 1fac8 1facd-1fadc 1fadf-1faea 1faef-1faf8
1fb00-1fb92 1fb94-1fbfa 20000-2a6df 2a700-2b81d 2b820-2cead 2ceb0-2ebe0 2ebf0-2ee5d 2f800-2fa1d
30000-3134a 31350-33479 e0100-e01ef"

/-! ## Reading the tables -/

/-- A range of characters and the replacement of its first one. -/
structure Shift where
  first : Nat
  last : Nat
  target : Nat

def Shift.ofText? (cs : List Char) : Option Shift := do
  let (range, target) ← cutFirst ':' cs
  let (first, last) ← CharSet.range? range
  return ⟨first, last, ← Hex.natural? target⟩

def shifts : List Shift :=
  (CharSet.words shiftLines.toList).filterMap Shift.ofText?

/-- A code point, and what it and those after it become. -/
def replacementRun? (cs : List Char) : Option (Nat × List (List Char)) :=
  match CharSet.words cs with
  | [] => none
  | first :: targets => (Hex.natural? first).map fun n ↦ (n, targets)

def replacements : List (Nat × List (List Char)) :=
  (splitAll '\n' replacementLines.toList).filterMap replacementRun?

/-! ## Replacing -/

/-- What a character beyond ASCII is replaced by, if it is. -/
def replacement? (n : Nat) : Option (List Char) :=
  match shifts.find? fun s ↦ s.first ≤ n && n ≤ s.last with
  | some s => some [Char.ofNat (s.target + (n - s.first))]
  | none =>
    match alternating.ranges.find? fun range ↦ range.1 ≤ n && n ≤ range.2 with
    | some range => if (n - range.1) % 2 = 0 then some [Char.ofNat (n + 1)] else none
    | none => replacements.findSome? fun (first, targets) ↦
        if first ≤ n then targets[n - first]? else none

/-- What a character becomes in a name, unless it may not occur. -/
def mapped? (c : Char) : Option (List Char) :=
  if c.toNat < 0x80 then some [c.toLower]
  else if dropped.contains c then some []
  else match replacement? c.toNat with
    | some cs => some cs
    | none => if admitted.contains c then some [c] else none

/-- Whether a character stays as it is. -/
def isSettled (c : Char) : Bool :=
  mapped? c = some [c]

end DeviceSync.Domain
