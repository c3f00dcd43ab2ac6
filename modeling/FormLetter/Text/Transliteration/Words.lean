/-!
Characters spelled as a word of their own: common Chinese characters by their reading, and
pictures by their name.
-/
namespace FormLetter.Text.Transliteration

/-- Readings, each with the characters read so. A reading is followed by a space. -/
def han : List (String × String) :=
  [("Ai", "爱愛"), ("An", "安"), ("Ba", "八巴"), ("Bai", "白百"), ("Bei", "北背"), ("Ben", "本"),
   ("Bian", "边"), ("Biao", "表"), ("Bing", "冰"), ("Bu", "不部"), ("Cai", "菜"), ("Cao", "草"),
   ("Cha", "茶"), ("Chang", "长長常"), ("Che", "车車"), ("Chen", "陈陳"), ("Cheng", "成城程"),
   ("Chi", "吃赤"), ("Chong", "虫"), ("Chuan", "川船"), ("Chun", "春"), ("Cun", "村"), ("Da", "大"),
   ("Dao", "道刀"), ("De", "的德"), ("Di", "地弟"), ("Dian", "电電店点"), ("Dong", "东東冬"), ("Du", "都"),
   ("Er", "二耳儿"), ("Fan", "饭飯"), ("Fang", "方"), ("Fei", "飞飛啡"), ("Fen", "分"), ("Feng", "风風"),
   ("Fu", "福父"), ("Gang", "港"), ("Gao", "高"), ("Ge", "格"), ("Gong", "工公"), ("Gou", "狗"),
   ("Gu", "古"), ("Guan", "关"), ("Guang", "光广廣"), ("Gui", "贵"), ("Guo", "国國郭果"), ("Hai", "海孩"),
   ("Han", "汉漢韩"), ("Hang", "杭"), ("Hao", "好号"), ("He", "和何河"), ("Hei", "黑"), ("Hong", "红紅"),
   ("Hou", "后後"), ("Hu", "虎湖"), ("Hua", "花话話华華化"), ("Huang", "黄黃"), ("Huo", "火"), ("Ji", "鸡机機"),
   ("Jia", "家价"), ("Jian", "见"), ("Jiang", "江"), ("Jin", "金今"), ("Jing", "京经"), ("Jiu", "九酒"),
   ("Ka", "咖"), ("Kai", "开開"), ("Kong", "空"), ("Kou", "口"), ("Le", "乐楽"), ("Lei", "雷"),
   ("Li", "李里力"), ("Liang", "量"), ("Lin", "林"), ("Liu", "六刘劉"), ("Long", "龙龍"), ("Lu", "路绿"),
   ("Ma", "马馬妈"), ("Mao", "猫毛"), ("Mei", "美妹"), ("Men", "门門们"), ("Mi", "米"), ("Miao", "秒"),
   ("Min", "民"), ("Ming", "明名茗"), ("Mu", "木目母"), ("Nan", "南男"), ("Ni", "你"), ("Nian", "年"),
   ("Niao", "鸟鳥"), ("Niu", "牛"), ("Nu", "女"), ("Peng", "朋"), ("Pin", "品"), ("Ping", "平苹"),
   ("Qi", "七气気"), ("Qian", "千前"), ("Qing", "青庆"), ("Qiu", "秋"), ("Qu", "区去"), ("Quan", "犬"),
   ("Ren", "人"), ("Ri", "日"), ("Rou", "肉"), ("San", "三"), ("Se", "色"), ("Sen", "森"),
   ("Shan", "山"), ("Shang", "上"), ("She", "蛇"), ("Shen", "深神"), ("Sheng", "生"),
   ("Shi", "是十时時市世事室"), ("Shou", "手"), ("Shu", "书書"), ("Shui", "水"), ("Si", "四"), ("Su", "苏"),
   ("Sun", "孙"), ("Ta", "他她"), ("Tai", "台太"), ("Tian", "天田"), ("Ting", "町"), ("Tu", "土兔"),
   ("Wan", "万湾灣"), ("Wang", "王"), ("Wei", "为"), ("Wen", "文"), ("Wo", "我"), ("Wu", "五吴武屋"),
   ("Xi", "西戏"), ("Xia", "下夏"), ("Xian", "先"), ("Xiang", "香"), ("Xiao", "小校"), ("Xie", "谢"),
   ("Xin", "心新"), ("Xing", "星行"), ("Xu", "徐"), ("Xue", "学學雪"), ("Yan", "言"), ("Yang", "羊杨"),
   ("Yi", "一"), ("Yin", "音"), ("You", "有右友"), ("Yu", "雨鱼魚语語"), ("Yuan", "元"), ("Yue", "月"),
   ("Yun", "云雲"), ("Zai", "在"), ("Zhang", "张張"), ("Zhao", "赵"), ("Zhe", "这"), ("Zhen", "圳"),
   ("Zheng", "正"), ("Zhi", "紙纸知"), ("Zhong", "中重"), ("Zhou", "周州"), ("Zhu", "朱猪"), ("Zi", "字子"),
   ("Zu", "足"), ("Zuo", "左")]

/-- Names of pictures. A name is followed by a space. -/
def pictures : List (String × String) :=
  [("😀", "grinning"), ("😁", "grin"), ("😂", "joy"), ("🤣", "rofl"), ("😃", "smiley"),
   ("😄", "smile"), ("😅", "sweat smile"), ("😆", "laughing"), ("😉", "wink"), ("😊", "blush"),
   ("😋", "yum"), ("😎", "sunglasses"), ("😍", "heart eyes"), ("😘", "kissing heart"),
   ("🙂", "slightly smiling face"), ("🤔", "thinking"), ("😐", "neutral face"),
   ("😑", "expressionless"), ("😴", "sleeping"), ("😛", "stuck out tongue"), ("😢", "cry"),
   ("😭", "sob"), ("😱", "scream"), ("😡", "rage"), ("😠", "angry"), ("🤖", "robot"), ("👻", "ghost"),
   ("💀", "skull"), ("👍", "+1"), ("👎", "-1"), ("👏", "clap"), ("🙏", "pray"), ("💪", "muscle"),
   ("👀", "eyes"), ("👩", "woman"), ("👨", "man"), ("👧", "girl"), ("👦", "boy"), ("👶", "baby"),
   ("👋", "wave"), ("❤", "heart"), ("💔", "broken heart"), ("💙", "blue heart"),
   ("💚", "green heart"), ("💛", "yellow heart"), ("💜", "purple heart"), ("🖤", "black heart"),
   ("💯", "100"), ("🔥", "fire"), ("✨", "sparkles"), ("⭐", "star"), ("🌟", "star2"), ("☀", "sunny"),
   ("☁", "cloud"), ("☂", "open umbrella"), ("☔", "umbrella"), ("❄", "snowflake"),
   ("☃", "snowman with snow"), ("⛄", "snowman"), ("⚡", "zap"), ("🌈", "rainbow"),
   ("🌍", "earth africa"), ("🌎", "earth americas"), ("🌏", "earth asia"), ("🌙", "crescent moon"),
   ("🌸", "cherry blossom"), ("🌹", "rose"), ("🌻", "sunflower"), ("🌲", "evergreen tree"),
   ("🍀", "four leaf clover"), ("🍎", "apple"), ("🍌", "banana"), ("🍇", "grapes"),
   ("🍓", "strawberry"), ("🍕", "pizza"), ("🍔", "hamburger"), ("🍟", "fries"), ("🍺", "beer"),
   ("🍷", "wine glass"), ("☕", "coffee"), ("🍵", "tea"), ("🍰", "cake"), ("🎂", "birthday"),
   ("🎉", "tada"), ("🎁", "gift"), ("🎈", "balloon"), ("🎄", "christmas tree"),
   ("🎃", "jack o lantern"), ("🎵", "musical note"), ("🎶", "notes"), ("⚽", "soccer"),
   ("🏀", "basketball"), ("🏆", "trophy"), ("🚀", "rocket"), ("🚗", "car"), ("🚲", "bike"),
   ("✈", "airplane"), ("🚢", "ship"), ("🏠", "house"), ("🏢", "office"), ("💻", "computer"),
   ("📱", "iphone"), ("☎", "phone"), ("📧", "e-mail"), ("✉", "envelope"), ("📅", "date"),
   ("📈", "chart with upwards trend"), ("📉", "chart with downwards trend"), ("📊", "bar chart"),
   ("📎", "paperclip"), ("📌", "pushpin"), ("✂", "scissors"), ("✏", "pencil2"), ("📖", "book"),
   ("📚", "books"), ("💡", "bulb"), ("🔒", "lock"), ("🔑", "key"), ("🔔", "bell"),
   ("⏰", "alarm clock"), ("⌚", "watch"), ("⏳", "hourglass flowing sand"),
   ("✅", "white check mark"), ("✔", "heavy check mark"), ("❌", "x"), ("❓", "question"),
   ("❗", "exclamation"), ("⚠", "warning"), ("♻", "recycle"), ("☣", "biohazard"),
   ("☢", "radioactive"), ("☮", "peace symbol"), ("☯", "yin yang"), ("♥", "hearts"),
   ("♠", "spades"), ("♣", "clubs"), ("♦", "diamonds"), ("🐱", "cat"), ("🐶", "dog"),
   ("🐭", "mouse"), ("🐰", "rabbit"), ("🐻", "bear"), ("🐼", "panda face"), ("🦁", "lion"),
   ("🐷", "pig"), ("🐸", "frog"), ("🐵", "monkey face"), ("🐔", "chicken"), ("🐧", "penguin"),
   ("🐦", "bird"), ("🐟", "fish"), ("🐙", "octopus"), ("🦄", "unicorn"), ("🐝", "bee"),
   ("🦋", "butterfly"), ("🐍", "snake"), ("🐢", "turtle"), ("💩", "poop"), ("💰", "moneybag"),
   ("💎", "gem"), ("🎓", "mortar board"), ("🔴", "red circle"), ("🔵", "large blue circle"),
   ("👑", "crown"), ("✌", "v"), ("👌", "ok hand"), ("🌊", "ocean"), ("🐳", "whale"),
   ("😇", "innocent"), ("😈", "smiling imp"), ("🙄", "roll eyes"), ("🤗", "hugs"),
   ("🥳", "partying face"), ("😜", "stuck out tongue winking eye"), ("😏", "smirk"),
   ("😔", "pensive"), ("😞", "disappointed"), ("😕", "confused"), ("😲", "astonished"),
   ("😷", "mask")]

end FormLetter.Text.Transliteration
